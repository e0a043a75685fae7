import LinDeX.Bitstream.H264Syntax
import LinDeX.Bitstream.Writer

/-!
# Codec configuration for H.264

`advc_h264_build_codec_config` writes a sequence and a picture parameter set from what VA-API tells
about a stream. A parser of the standard syntax reads back what it was given.
-/
namespace LinDeX.H264
open Bits AnnexB Bitstream List Codes
structure ParameterInput where
  profileIdc : UInt8
  (visibleWidth visibleHeight : UInt32)
  (pictureWidthInMbsMinus1 pictureHeightInMbsMinus1 : UInt16)
  (bitDepthLumaMinus8 bitDepthChromaMinus8 chromaFormatIdc separateColourPlaneFlag : UInt8)
  (gapsInFrameNumValueAllowedFlag frameMbsOnlyFlag mbAdaptiveFrameFieldFlag : UInt8)
  (direct8x8InferenceFlag log2MaxFrameNumMinus4 picOrderCntType log2MaxPicOrderCntLsbMinus4 : UInt8)
  (numRefFrames vuiBitstreamRestrictionFlag maxNumReorderFrames maxDecFrameBuffering : UInt8)
  (picInitQpMinus26 picInitQsMinus26 chromaQpIndexOffset secondChromaQpIndexOffset : Int8)
  (entropyCodingModeFlag weightedPredFlag weightedBipredIdc transform8x8ModeFlag : UInt8)
  (fieldPicFlag constrainedIntraPredFlag bottomFieldPicOrderInFramePresentFlag : UInt8)
  (deblockingFilterControlPresentFlag redundantPicCntPresentFlag : UInt8)
  (numRefIdxL0DefaultActiveMinus1 numRefIdxL1DefaultActiveMinus1 : UInt8)
  deriving DecidableEq, Repr

/-- `ADVC_H264_MAX_CONFIG_BYTES`, and the `uint32_t` of `put_bits`. -/
def format : Format := ⟨1024,32,by decide⟩

/-- `struct advc_h264_codec_config`, with the bytes in use. -/
structure CodecConfig where
  data : List UInt8
  ppsId : UInt32
  deriving DecidableEq, Repr

def ParameterInput.codedWidth (input : ParameterInput) : UInt32 :=
  (input.pictureWidthInMbsMinus1.toUInt32 + 1) * 16
def ParameterInput.codedHeight (input : ParameterInput) : UInt32 :=
  (input.pictureHeightInMbsMinus1.toUInt32 + 1) * 16

def validateParameters (input : ParameterInput) : Except Errno Unit :=
  if input.visibleWidth = 0 ∨ input.visibleHeight = 0 ∨ input.visibleWidth > 8192 ∨
      input.visibleHeight > 8192 then .error .einval
  else if (input.profileIdc ≠ 66 ∧ input.profileIdc ≠ 77) ∨ input.bitDepthLumaMinus8 ≠ 0 ∨
      input.bitDepthChromaMinus8 ≠ 0 ∨ input.chromaFormatIdc ≠ 1 ∨
      input.separateColourPlaneFlag ≠ 0 ∨ input.frameMbsOnlyFlag ≠ 1 ∨
      input.mbAdaptiveFrameFieldFlag ≠ 0 ∨ input.fieldPicFlag ≠ 0 ∨
      (input.picOrderCntType ≠ 0 ∧ input.picOrderCntType ≠ 2) ∨ input.transform8x8ModeFlag ≠ 0 ∨
      input.secondChromaQpIndexOffset ≠ input.chromaQpIndexOffset ∨
      input.weightedBipredIdc > 2 ∨ input.log2MaxFrameNumMinus4 > 12 ∨
      input.log2MaxPicOrderCntLsbMinus4 > 12 ∨ input.numRefFrames > 16 ∨
      (input.vuiBitstreamRestrictionFlag ≠ 0 ∧ (input.maxDecFrameBuffering > 16 ∨
        input.maxNumReorderFrames > input.maxDecFrameBuffering ∨
        input.maxDecFrameBuffering < input.numRefFrames)) ∨
      (input.vuiBitstreamRestrictionFlag = 0 ∧ (input.maxNumReorderFrames ≠ 0 ∨
        input.maxDecFrameBuffering ≠ 0)) then .error .enotsup
  else if input.visibleWidth > input.codedWidth ∨ input.visibleHeight > input.codedHeight ∨
      (input.codedWidth - input.visibleWidth) % 2 ≠ 0 ∨
      (input.codedHeight - input.visibleHeight) % 2 ≠ 0 then .error .enotsup
  else .ok ()

def ParameterInput.cropRight (input : ParameterInput) : UInt32 :=
  (input.codedWidth - input.visibleWidth) / 2
def ParameterInput.cropBottom (input : ParameterInput) : UInt32 :=
  (input.codedHeight - input.visibleHeight) / 2
def ParameterInput.cropped (input : ParameterInput) : Bool :=
  input.cropRight != 0 || input.cropBottom != 0

def putCropping (input : ParameterInput) : Put := do
  putUe format 0
  putUe format input.cropRight.toNat
  putUe format 0
  putUe format input.cropBottom.toNat

def putVui (input : ParameterInput) : Put := do
  putBit format 0 -- aspect_ratio_info_present_flag
  putBit format 0 -- overscan_info_present_flag
  putBit format 0 -- video_signal_type_present_flag
  putBit format 0 -- chroma_loc_info_present_flag
  putBit format 0 -- timing_info_present_flag
  putBit format 0 -- nal_hrd_parameters_present_flag
  putBit format 0 -- vcl_hrd_parameters_present_flag
  putBit format 0 -- pic_struct_present_flag
  putBit format 1 -- bitstream_restriction_flag
  putBit format 1 -- motion_vectors_over_pic_boundaries
  putUe format 2 -- max_bytes_per_pic_denom
  putUe format 1 -- max_bits_per_mb_denom
  putUe format 16 -- log2_max_mv_length_horizontal
  putUe format 16 -- log2_max_mv_length_vertical
  putUe format input.maxNumReorderFrames.toNat
  putUe format input.maxDecFrameBuffering.toNat

def putSps (input : ParameterInput) : Put := do
  putBits format input.profileIdc.toNat 8
  putBits format (if input.profileIdc = 66 then 0xc0 else 0) 8
  putBits format 51 8
  putUe format 0
  putUe format input.log2MaxFrameNumMinus4.toNat
  putUe format input.picOrderCntType.toNat
  putWhen (input.picOrderCntType = 0) (putUe format input.log2MaxPicOrderCntLsbMinus4.toNat)
  putUe format input.numRefFrames.toNat
  putBit format input.gapsInFrameNumValueAllowedFlag.toNat
  putUe format input.pictureWidthInMbsMinus1.toNat
  putUe format input.pictureHeightInMbsMinus1.toNat
  putBit format input.frameMbsOnlyFlag.toNat
  putBit format input.direct8x8InferenceFlag.toNat
  putBit format input.cropped.toNat
  putWhen (input.cropped = true) (putCropping input)
  putBit format input.vuiBitstreamRestrictionFlag.toNat
  putWhen (input.vuiBitstreamRestrictionFlag ≠ 0) (putVui input)

def putPps (input : ParameterInput) (ppsId : UInt32) : Put := do
  putUe format ppsId.toNat
  putUe format 0
  putBit format input.entropyCodingModeFlag.toNat
  putBit format input.bottomFieldPicOrderInFramePresentFlag.toNat
  putUe format 0
  putUe format input.numRefIdxL0DefaultActiveMinus1.toNat
  putUe format input.numRefIdxL1DefaultActiveMinus1.toNat
  putBit format input.weightedPredFlag.toNat
  putBits format input.weightedBipredIdc.toNat 2
  putSe format input.picInitQpMinus26.toInt
  putSe format input.picInitQsMinus26.toInt
  putSe format input.chromaQpIndexOffset.toInt
  putBit format input.deblockingFilterControlPresentFlag.toNat
  putBit format input.constrainedIntraPredFlag.toNat
  putBit format input.redundantPicCntPresentFlag.toNat

/-- `advc_h264_build_codec_config`. An id that is too large leaves `errno` as it was. -/
def buildCodecConfig (errno : Errno) (input : ParameterInput) (ppsId : UInt32) :
    Except Errno CodecConfig := do
  if ppsId > 255 then throw errno
  else
    validateParameters input
    let sps ← rbsp format (putSps input)
    let pps ← rbsp format (putPps input ppsId)
    let data ← appendAnnexbNal format [] [0x67] sps
    let data ← appendAnnexbNal format data [0x68] pps
    return ⟨data,ppsId⟩

structure ParameterInput.FlagsBinary (input : ParameterInput) : Prop where
  gapsInFrameNumValueAllowedFlag : input.gapsInFrameNumValueAllowedFlag ≤ 1
  direct8x8InferenceFlag : input.direct8x8InferenceFlag ≤ 1
  vuiBitstreamRestrictionFlag : input.vuiBitstreamRestrictionFlag ≤ 1
  entropyCodingModeFlag : input.entropyCodingModeFlag ≤ 1
  bottomFieldPicOrderInFramePresentFlag : input.bottomFieldPicOrderInFramePresentFlag ≤ 1
  weightedPredFlag : input.weightedPredFlag ≤ 1
  deblockingFilterControlPresentFlag : input.deblockingFilterControlPresentFlag ≤ 1
  constrainedIntraPredFlag : input.constrainedIntraPredFlag ≤ 1
  redundantPicCntPresentFlag : input.redundantPicCntPresentFlag ≤ 1

structure Accepted (input : ParameterInput) : Prop where
  profile : input.profileIdc = 66 ∨ input.profileIdc = 77
  frameMbsOnly : input.frameMbsOnlyFlag = 1
  orderType : input.picOrderCntType = 0 ∨ input.picOrderCntType = 2
  secondOffset : input.secondChromaQpIndexOffset = input.chromaQpIndexOffset
  transform : input.transform8x8ModeFlag = 0
  bipred : input.weightedBipredIdc ≤ 2
  width : 2 * input.cropRight.toNat + input.visibleWidth.toNat = input.codedWidth.toNat
  height : 2 * input.cropBottom.toNat + input.visibleHeight.toNat = input.codedHeight.toNat
variable {input : ParameterInput}
theorem accepted_of_validateParameters
    (h : validateParameters input = .ok ()) : Accepted input := by
  unfold validateParameters at h
  iterate 3
    split at h
    · cases h
  rename_i _ hfields hsizes
  simp only [not_or,not_and,not_not] at hfields hsizes
  obtain ⟨hprofile, -, -, -, -,hframe, -, -,horder,htransform,hsecond,hbipred, -⟩ := hfields
  obtain ⟨hwidth,hheight,hwidthEven,hheightEven⟩ := hsizes
  exact
    { profile := or_iff_not_imp_left.mpr hprofile
      frameMbsOnly := hframe
      orderType := or_iff_not_imp_left.mpr horder
      secondOffset := hsecond
      transform := htransform
      bipred := UInt8.not_lt.mp hbipred
      width := cropping_exact hwidth hwidthEven
      height := cropping_exact hheight hheightEven }

def ParameterInput.cropping (input : ParameterInput) : Cropping :=
  ⟨0,input.cropRight.toNat,0,input.cropBottom.toNat⟩

def ParameterInput.restriction (input : ParameterInput) : BitstreamRestriction :=
  { motionVectorsOverPicBoundariesFlag := true
    maxBytesPerPicDenom := 2
    maxBitsPerMbDenom := 1
    log2MaxMvLengthHorizontal := 16
    log2MaxMvLengthVertical := 16
    maxNumReorderFrames := input.maxNumReorderFrames.toNat
    maxDecFrameBuffering := input.maxDecFrameBuffering.toNat }

def ParameterInput.vui (input : ParameterInput) : Vui :=
  { aspectRatio := none
    overscanAppropriateFlag := none
    videoSignal := none
    chromaLoc := none
    timing := none
    nalHrd := none
    vclHrd := none
    lowDelayHrdFlag := none
    picStructPresentFlag := false
    bitstreamRestriction := some input.restriction }

def ParameterInput.sps (input : ParameterInput) : Sps :=
  { profileIdc := input.profileIdc.toNat
    constraintFlags := if input.profileIdc = 66 then 0xc0 else 0
    levelIdc := 51
    seqParameterSetId := 0
    log2MaxFrameNumMinus4 := input.log2MaxFrameNumMinus4.toNat
    picOrderCntType := input.picOrderCntType.toNat
    log2MaxPicOrderCntLsbMinus4 :=
      if input.picOrderCntType = 0 then some input.log2MaxPicOrderCntLsbMinus4.toNat else none
    orderCycle := none
    maxNumRefFrames := input.numRefFrames.toNat
    gapsInFrameNumValueAllowedFlag := coded input.gapsInFrameNumValueAllowedFlag
    picWidthInMbsMinus1 := input.pictureWidthInMbsMinus1.toNat
    picHeightInMapUnitsMinus1 := input.pictureHeightInMbsMinus1.toNat
    frameMbsOnlyFlag := true
    mbAdaptiveFrameFieldFlag := none
    direct8x8InferenceFlag := coded input.direct8x8InferenceFlag
    cropping := if input.cropped = true then some input.cropping else none
    vui := if input.vuiBitstreamRestrictionFlag ≠ 0 then some input.vui else none }

def ParameterInput.pps (input : ParameterInput) (ppsId : UInt32) : Pps :=
  { picParameterSetId := ppsId.toNat
    seqParameterSetId := 0
    entropyCodingModeFlag := coded input.entropyCodingModeFlag
    bottomFieldPicOrderInFramePresentFlag := coded input.bottomFieldPicOrderInFramePresentFlag
    numSliceGroupsMinus1 := 0
    sliceGroups := none
    numRefIdxL0DefaultActiveMinus1 := input.numRefIdxL0DefaultActiveMinus1.toNat
    numRefIdxL1DefaultActiveMinus1 := input.numRefIdxL1DefaultActiveMinus1.toNat
    weightedPredFlag := coded input.weightedPredFlag
    weightedBipredIdc := input.weightedBipredIdc.toNat
    picInitQpMinus26 := input.picInitQpMinus26.toInt
    picInitQsMinus26 := input.picInitQsMinus26.toInt
    chromaQpIndexOffset := input.chromaQpIndexOffset.toInt
    deblockingFilterControlPresentFlag := coded input.deblockingFilterControlPresentFlag
    constrainedIntraPredFlag := coded input.constrainedIntraPredFlag
    redundantPicCntPresentFlag := coded input.redundantPicCntPresentFlag
    extension := none }

theorem codes_cropping (h : Accepted input) :
    Codes format 252 (putCropping input) readCropping input.cropping := by
  have hcoded (size : UInt16) : ((size.toUInt32 + 1) * 16).toNat < 2 ^ 32 - 1 := by
    have := size.toNat_lt
    simp
    omega
  have hwidth : input.cropRight.toNat + 1 < 2 ^ 32 := by
    have := h.width
    have := hcoded input.pictureWidthInMbsMinus1
    unfold ParameterInput.codedWidth at *
    omega
  have hheight : input.cropBottom.toNat + 1 < 2 ^ 32 := by
    have := h.height
    have := hcoded input.pictureHeightInMbsMinus1
    unfold ParameterInput.codedHeight at *
    omega
  exact zeroUe.bind rfl <| (ue hwidth).bind rfl <|
    zeroUe.bind rfl <| (ue hheight).last rfl (Reads.pure _)

theorem codes_restriction (input : ParameterInput) :
    Codes format 379 (do
      putBit format 1
      putUe format 2
      putUe format 1
      putUe format 16
      putUe format 16
      putUe format input.maxNumReorderFrames.toNat
      putUe format input.maxDecFrameBuffering.toNat)
      readBitstreamRestriction input.restriction :=
  have hsmall {value : Nat} (h : value < 256) :
      Codes format 63 (putUe format value) readUe value := .ue (by omega)
  one.bind rfl <| (hsmall (by decide)).bind rfl <|
    (hsmall (by decide)).bind rfl <| (hsmall (by decide)).bind rfl <|
    (hsmall (by decide)).bind rfl <| (ue8 _).bind rfl <|
    (ue8 _).last rfl (Reads.pure _)

theorem codes_vui (input : ParameterInput) : Codes format 388 (putVui input) readVui input.vui := by
  iterate 6 refine Codes.zero.bind rfl (skip nofun ?_)
  refine Codes.zero.bind rfl (skip nofun (skip nofun ?_))
  refine Codes.zero.bind rfl (one.bind rfl ?_)
  exact ((codes_restriction input).present rfl).last rfl (Reads.pure _)

theorem codes_sps (h : Accepted input) (hflags : input.FlagsBinary) :
    Codes format 1400 (putSps input) readSps input.sps := by
  have hprofile : input.profileIdc.toNat ∉ highProfiles := by
    rcases h.profile with hidc | hidc <;> rw [hidc] <;> decide
  have hconstraint : (if input.profileIdc = 66 then 0xc0 else 0) < 2 ^ 8 := by split <;> decide
  have horder : input.picOrderCntType.toNat = 0 ↔ input.picOrderCntType = 0 :=
    ⟨fun hzero => UInt8.toNat_inj.mp hzero,fun hzero => congrArg UInt8.toNat hzero⟩
  have hcycle : ¬ input.picOrderCntType.toNat = 1 := by
    rcases h.orderType with htype | htype <;> rw [htype] <;> decide
  have hframe : Codes format 1 (putBit format input.frameMbsOnlyFlag.toNat) readBit true := by
    rw [h.frameMbsOnly]
    exact one
  refine (Codes.ofNat (by decide) input.profileIdc.toNat_lt).bind rfl ?_
  rw [if_neg hprofile]
  refine (Codes.ofNat (by decide) hconstraint).bind rfl ?_
  refine (Codes.ofNat (by decide) (by decide)).bind rfl ?_
  apply Codes.zeroUe.bind rfl
  apply (Codes.ue8 _).bind rfl
  apply (Codes.ue8 _).bind rfl
  refine (Codes.when horder fun _ => Codes.ue8 _).bind rfl (Codes.skip hcycle ?_)
  apply (ue8 _).bind rfl
  apply (flag _).bind rfl
  apply (ue16 _).bind rfl
  apply (ue16 _).bind rfl
  refine hframe.bind rfl (skip nofun ?_)
  apply (flag _).bind rfl
  apply (bool _).bind rfl
  refine (when Iff.rfl fun _ => codes_cropping h).bind rfl ?_
  apply (flag _).bind rfl
  exact (when (coded_iff hflags.vuiBitstreamRestrictionFlag) fun _ => codes_vui input).last rfl
    (Reads.pure _)

theorem codes_pps (h : Accepted input) {ppsId : UInt32} (hid : ppsId ≤ 255) :
    Codes format 520 (putPps input ppsId) readPpsFields (input.pps ppsId) := by
  have hid' : ppsId.toNat + 1 < 2 ^ 32 := by
    have : ppsId.toNat ≤ 255 := UInt32.le_iff_toNat_le.mp hid
    omega
  have hbipred : input.weightedBipredIdc.toNat < 2 ^ 2 :=
    Nat.lt_succ_of_le (Nat.le_succ_of_le (UInt8.le_iff_toNat_le.mp h.bipred))
  apply (ue hid').bind rfl
  apply zeroUe.bind rfl
  apply (flag _).bind rfl
  apply (flag _).bind rfl
  refine zeroUe.bind rfl (skip (Nat.lt_irrefl 0) ?_)
  apply (ue8 _).bind rfl
  apply (ue8 _).bind rfl
  apply (flag _).bind rfl
  refine (ofNat (by decide) hbipred).bind rfl ?_
  iterate 3 apply (se8 _).bind rfl
  apply (flag _).bind rfl
  apply (flag _).bind rfl
  exact (flag _).last rfl (Reads.pure _)

theorem readPps_trailing {bits : List Bool} {pps : Pps} {zeros : Nat} (hzeros : zeros < 8)
    (h : Reads readPpsFields bits pps) :
    readPps (bits ++ trailing zeros) = some ({ pps with extension := none }, trailing zeros) := by
  change (readPpsFields (bits ++ trailing zeros)).bind _ = _
  rw [h,Option.bind_some]
  change (readIf ((!isTrailing (trailing zeros)) = true) readPpsExtension (trailing zeros)).bind _ = _
  rw [isTrailing_trailing hzeros]
  rfl

structure Describes (input : ParameterInput) (ppsId : UInt32) (sps : Sps) (pps : Pps) : Prop where
  profileIdc : sps.profileIdc = input.profileIdc.toNat
  log2MaxFrameNumMinus4 : sps.log2MaxFrameNumMinus4 = input.log2MaxFrameNumMinus4.toNat
  picOrderCntType : sps.picOrderCntType = input.picOrderCntType.toNat
  log2MaxPicOrderCntLsbMinus4 : sps.log2MaxPicOrderCntLsbMinus4 =
    if input.picOrderCntType = 0 then some input.log2MaxPicOrderCntLsbMinus4.toNat else none
  maxNumRefFrames : sps.maxNumRefFrames = input.numRefFrames.toNat
  gapsInFrameNumValueAllowedFlag :
    sps.gapsInFrameNumValueAllowedFlag.toNat = input.gapsInFrameNumValueAllowedFlag.toNat
  picWidthInMbsMinus1 : sps.picWidthInMbsMinus1 = input.pictureWidthInMbsMinus1.toNat
  picHeightInMapUnitsMinus1 :
    sps.picHeightInMapUnitsMinus1 = input.pictureHeightInMbsMinus1.toNat
  frameMbsOnlyFlag : sps.frameMbsOnlyFlag.toNat = input.frameMbsOnlyFlag.toNat
  direct8x8InferenceFlag :
    sps.direct8x8InferenceFlag.toNat = input.direct8x8InferenceFlag.toNat
  visibleWidth : sps.visibleWidth = input.visibleWidth.toNat
  visibleHeight : sps.visibleHeight = input.visibleHeight.toNat
  vui : sps.vui.isSome.toNat = input.vuiBitstreamRestrictionFlag.toNat
  reordering : ∀ vui ∈ sps.vui, ∃ restriction ∈ vui.bitstreamRestriction,
    restriction.maxNumReorderFrames = input.maxNumReorderFrames.toNat ∧
      restriction.maxDecFrameBuffering = input.maxDecFrameBuffering.toNat
  picParameterSetId : pps.picParameterSetId = ppsId.toNat
  seqParameterSetId : pps.seqParameterSetId = sps.seqParameterSetId
  entropyCodingModeFlag : pps.entropyCodingModeFlag.toNat = input.entropyCodingModeFlag.toNat
  bottomFieldPicOrderInFramePresentFlag : pps.bottomFieldPicOrderInFramePresentFlag.toNat =
    input.bottomFieldPicOrderInFramePresentFlag.toNat
  numRefIdxL0DefaultActiveMinus1 :
    pps.numRefIdxL0DefaultActiveMinus1 = input.numRefIdxL0DefaultActiveMinus1.toNat
  numRefIdxL1DefaultActiveMinus1 :
    pps.numRefIdxL1DefaultActiveMinus1 = input.numRefIdxL1DefaultActiveMinus1.toNat
  weightedPredFlag : pps.weightedPredFlag.toNat = input.weightedPredFlag.toNat
  weightedBipredIdc : pps.weightedBipredIdc = input.weightedBipredIdc.toNat
  picInitQpMinus26 : pps.picInitQpMinus26 = input.picInitQpMinus26.toInt
  picInitQsMinus26 : pps.picInitQsMinus26 = input.picInitQsMinus26.toInt
  chromaQpIndexOffset : pps.chromaQpIndexOffset = input.chromaQpIndexOffset.toInt
  secondChromaQpIndexOffset :
    pps.secondChromaQpIndexOffset = input.secondChromaQpIndexOffset.toInt
  transform8x8ModeFlag : pps.transform8x8ModeFlag.toNat = input.transform8x8ModeFlag.toNat
  deblockingFilterControlPresentFlag : pps.deblockingFilterControlPresentFlag.toNat =
    input.deblockingFilterControlPresentFlag.toNat
  constrainedIntraPredFlag :
    pps.constrainedIntraPredFlag.toNat = input.constrainedIntraPredFlag.toNat
  redundantPicCntPresentFlag :
    pps.redundantPicCntPresentFlag.toNat = input.redundantPicCntPresentFlag.toNat

theorem coded_size (size : UInt16) : ((size.toUInt32 + 1) * 16).toNat = 16 * (size.toNat + 1) := by
  have hsize := size.toNat_lt
  simp only [UInt32.toNat_mul,UInt32.toNat_add,UInt16.toNat_toUInt32,UInt32.reduceToNat]
  omega

theorem describes (h : Accepted input) (hflags : input.FlagsBinary)
    (ppsId : UInt32) : Describes input ppsId input.sps (input.pps ppsId) := by
  have hcrop : input.sps.cropping.getD ⟨0,0,0,0⟩ = input.cropping := by
    unfold ParameterInput.sps
    dsimp only
    split
    · rfl
    · rename_i hnone
      simp only [ParameterInput.cropped,Bool.or_eq_true,bne_iff_ne,not_or,not_not] at hnone
      rw [ParameterInput.cropping,hnone.1,hnone.2]
      rfl
  exact
    { profileIdc := rfl
      log2MaxFrameNumMinus4 := rfl
      picOrderCntType := rfl
      log2MaxPicOrderCntLsbMinus4 := rfl
      maxNumRefFrames := rfl
      gapsInFrameNumValueAllowedFlag := coded_toNat hflags.gapsInFrameNumValueAllowedFlag
      picWidthInMbsMinus1 := rfl
      picHeightInMapUnitsMinus1 := rfl
      frameMbsOnlyFlag := by rw [h.frameMbsOnly]; rfl
      direct8x8InferenceFlag := coded_toNat hflags.direct8x8InferenceFlag
      visibleWidth := by
        have hwidth := h.width
        rw [ParameterInput.codedWidth,coded_size] at hwidth
        rw [Sps.visibleWidth,hcrop]
        change 16 * (input.pictureWidthInMbsMinus1.toNat + 1) - 2 * (0 + input.cropRight.toNat) = _
        omega
      visibleHeight := by
        have hheight := h.height
        rw [ParameterInput.codedHeight,coded_size] at hheight
        rw [Sps.visibleHeight,hcrop]
        change (2 - 1) * (16 * (input.pictureHeightInMbsMinus1.toNat + 1)) -
          2 * (2 - 1) * (0 + input.cropBottom.toNat) = _
        omega
      vui := present_toNat hflags.vuiBitstreamRestrictionFlag
      reordering := by
        intro vui hvui
        obtain ⟨-,hsome⟩ := Option.ite_none_right_eq_some.mp hvui
        rw [← Option.some.inj hsome]
        exact ⟨input.restriction,rfl,rfl,rfl⟩
      picParameterSetId := rfl
      seqParameterSetId := rfl
      entropyCodingModeFlag := coded_toNat hflags.entropyCodingModeFlag
      bottomFieldPicOrderInFramePresentFlag :=
        coded_toNat hflags.bottomFieldPicOrderInFramePresentFlag
      numRefIdxL0DefaultActiveMinus1 := rfl
      numRefIdxL1DefaultActiveMinus1 := rfl
      weightedPredFlag := coded_toNat hflags.weightedPredFlag
      weightedBipredIdc := rfl
      picInitQpMinus26 := rfl
      picInitQsMinus26 := rfl
      chromaQpIndexOffset := rfl
      secondChromaQpIndexOffset := congrArg Int8.toInt h.secondOffset.symm
      transform8x8ModeFlag := by rw [h.transform]; rfl
      deblockingFilterControlPresentFlag := coded_toNat hflags.deblockingFilterControlPresentFlag
      constrainedIntraPredFlag := coded_toNat hflags.constrainedIntraPredFlag
      redundantPicCntPresentFlag := coded_toNat hflags.redundantPicCntPresentFlag }

/-- For everything that the validator accepts, with flags that are flags, the configuration is
built, and a parser of the standard syntax takes it apart into two parameter sets, each up to its
trailing bits, which say what the input says. -/
theorem buildCodecConfig_roundTrip (errno : Errno) (input : ParameterInput) (ppsId : UInt32)
    (hvalid : validateParameters input = .ok ()) (hflags : input.FlagsBinary) (hid : ppsId ≤ 255) :
    ∃ config sps pps, buildCodecConfig errno input ppsId = .ok config ∧ config.ppsId = ppsId ∧
    readConfig config.data = some (sps, pps) ∧ Describes input ppsId sps pps := by
  have haccepted := accepted_of_validateParameters hvalid
  obtain ⟨sps,hsps,hspsFinished,hspsPayload⟩ := (codes_sps haccepted hflags).payload (by decide)
    fun _ _ _ hread => hread _
  obtain ⟨pps,hpps,hppsFinished,hppsPayload⟩ := (codes_pps haccepted hid).payload (by decide)
    fun _ _ hzeros hread => readPps_trailing hzeros hread
  have hlength := hspsFinished.length_framed [0x67]
  rw [length_singleton] at hlength
  have hfirst := hspsFinished.append (f := format) [] [0x67] (by decide)
  have hsecond := hppsFinished.append (f := format) (framed ([0x67] ++ escape 0 sps.data)) [0x68] (by
    rw [length_singleton,show format.capacity = 1024 from rfl]
    omega)
  refine ⟨⟨[[0x67] ++ escape 0 sps.data,[0x68] ++ escape 0 pps.data].flatMap framed,ppsId⟩,
    input.sps,input.pps ppsId,?_,rfl,?_,describes haccepted hflags ppsId⟩
  · rw [nil_append] at hfirst
    rw [buildCodecConfig,if_neg (UInt32.not_lt.mpr hid),hvalid,ok_bind,hsps,ok_bind,hpps,
      ok_bind,hfirst,ok_bind,hsecond,ok_bind,List.flatMap_cons,List.flatMap_cons,
      List.flatMap_nil,append_nil]
    rfl
  · have hunits : units ([[0x67] ++ escape 0 sps.data,[0x68] ++ escape 0 pps.data].flatMap framed) =
        some [[0x67] ++ escape 0 sps.data,[0x68] ++ escape 0 pps.data] := by
      refine units_of_delimited (forall_mem_cons.mpr ⟨?_,forall_mem_singleton.mpr ?_⟩)
      · exact hspsPayload.delimited [0x67] (forall_mem_singleton.mpr (by decide))
      · exact hppsPayload.delimited [0x68] (forall_mem_singleton.mpr (by decide))
    have hspsUnit := hspsPayload.decoded [0x67]
    have hppsUnit := hppsPayload.decoded [0x68]
    rw [length_singleton] at hspsUnit hppsUnit
    simp only [readConfig,hunits,hspsUnit,hppsUnit,Option.bind_eq_bind,Option.bind_some]
    rfl

def fullHd : ParameterInput :=
  { profileIdc := 77
    visibleWidth := 1920
    visibleHeight := 1080
    pictureWidthInMbsMinus1 := 119
    pictureHeightInMbsMinus1 := 67
    bitDepthLumaMinus8 := 0
    bitDepthChromaMinus8 := 0
    chromaFormatIdc := 1
    separateColourPlaneFlag := 0
    gapsInFrameNumValueAllowedFlag := 0
    frameMbsOnlyFlag := 1
    mbAdaptiveFrameFieldFlag := 0
    direct8x8InferenceFlag := 1
    log2MaxFrameNumMinus4 := 4
    picOrderCntType := 0
    log2MaxPicOrderCntLsbMinus4 := 2
    numRefFrames := 3
    vuiBitstreamRestrictionFlag := 1
    maxNumReorderFrames := 2
    maxDecFrameBuffering := 4
    picInitQpMinus26 := -3
    picInitQsMinus26 := 0
    chromaQpIndexOffset := -2
    secondChromaQpIndexOffset := -2
    entropyCodingModeFlag := 1
    weightedPredFlag := 1
    weightedBipredIdc := 2
    transform8x8ModeFlag := 0
    fieldPicFlag := 0
    constrainedIntraPredFlag := 0
    bottomFieldPicOrderInFramePresentFlag := 0
    deblockingFilterControlPresentFlag := 1
    redundantPicCntPresentFlag := 0
    numRefIdxL0DefaultActiveMinus1 := 2
    numRefIdxL1DefaultActiveMinus1 := 0 }

theorem buildCodecConfig_roundTrip_fullHd :
    ∃ config sps pps, buildCodecConfig .eio fullHd 3 = .ok config ∧ config.ppsId = 3 ∧
    readConfig config.data = some (sps, pps) ∧ Describes fullHd 3 sps pps :=
  buildCodecConfig_roundTrip .eio fullHd 3 (by decide)
    ⟨by decide,by decide,by decide,by decide,by decide,by decide,by decide,by decide,
      by decide⟩ (by decide)
end LinDeX.H264
