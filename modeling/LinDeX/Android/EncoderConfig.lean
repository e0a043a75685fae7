import LinDeX.Client.Session
import LinDeX.SessionEngine.Mock

/-!
# Encoder configurations

The client library, the session engine and the Android backend each look at the configuration of
an encode session. All three accept the same ones.
-/
namespace LinDeX.Android
open Bytes SessionEngine Client List Transport EncodeProfile Direction
def validEncoderConfig (c : BackendConfig) : Bool :=
  let transport := defaultTransport c.transport
  let avc := c.mime == ascii "video/avc"
  let hevc := c.mime == ascii "video/hevc"
  if c.direction != encode.toUInt8 || (!avc && !hevc) || c.width < 16 ||
      c.width > 8192 || c.height < 16 || c.height > 8192 || (c.width &&& 1) != 0 ||
      (c.height &&& 1) != 0 || c.bitrate == 0 || c.bitrate > maxEncodeBitrate ||
      c.framerateMilli < 1000 || c.framerateMilli > 240000 ||
      ((avc && c.encodeProfile != h264ConstrainedBaseline &&
          c.encodeProfile != h264Main &&
          c.encodeProfile != h264High) ||
        (hevc && c.encodeProfile != hevcMain) ||
        (transport == bytes && c.colorFormat != ColorFormat.yuv420Planar &&
          c.colorFormat != ColorFormat.yuv420Semiplanar) ||
        ((transport == brokerEglSurface || transport == androidAhbSurface ||
          transport == dmabuf) && c.colorFormat != 0) ||
        (transport != bytes && transport != brokerEglSurface &&
          transport != androidAhbSurface && transport != dmabuf)) then false
  else if transport == brokerEglSurface || transport == androidAhbSurface ||
      transport == dmabuf then true
  else
    let pixels := c.width.toUInt64 * c.height.toUInt64
    decide (pixels + pixels / 2 ≤ maxInputBytes)

structure EvenSide (side : UInt32) : Prop where
  lower : 16 ≤ side
  upper : side ≤ 8192
  even : side &&& 1 = 0

def ProfileOf (mime : List UInt8) (profile : UInt32) : Prop :=
  (mime = ascii "video/avc" ∧ (profile = h264ConstrainedBaseline ∨
    profile = h264Main ∨ profile = h264High)) ∨
  (mime = ascii "video/hevc" ∧ profile = hevcMain)

/-- How raw frames reach the encoder: as bytes of a known layout that fit one input, or through a
surface, which has no layout of its own. -/
def InputPath (transport colorFormat : UInt32) (frameBytes : UInt64) : Prop :=
  (transport = bytes ∧ (colorFormat = ColorFormat.yuv420Planar ∨
    colorFormat = ColorFormat.yuv420Semiplanar) ∧ frameBytes ≤ maxInputBytes) ∨
  (surfaceTransport transport = true ∧ colorFormat = 0)

structure Encodable (c : BackendConfig) : Prop where
  profile : ProfileOf c.mime c.encodeProfile
  width : EvenSide c.width
  height : EvenSide c.height
  bitrate : c.bitrate ≠ 0 ∧ c.bitrate ≤ maxEncodeBitrate
  framerate : 1000 ≤ c.framerateMilli ∧ c.framerateMilli ≤ 240000
  input : InputPath (defaultTransport c.transport) c.colorFormat (encodeFrameBytes c)

theorem avc_ne_hevc : ascii "video/avc" ≠ ascii "video/hevc" := by decide
theorem bytes_not_surface : surfaceTransport bytes = false := by decide

theorem profileOf_iff (mime : List UInt8) (profile : UInt32) :
    ((!(mime == ascii "video/avc") && !(mime == ascii "video/hevc")) = false ∧
    ((mime == ascii "video/avc") && profile != h264ConstrainedBaseline &&
      profile != h264Main && profile != h264High) = false ∧
    ((mime == ascii "video/hevc") && profile != hevcMain) = false) ↔ ProfileOf mime profile := by
  unfold ProfileOf
  by_cases havc : mime = ascii "video/avc"
  · simp [havc,avc_ne_hevc,Classical.or_iff_not_imp_left]
  · by_cases hhevc : mime = ascii "video/hevc"
    · simp [hhevc,avc_ne_hevc.symm]
    · simp [havc,hhevc]

theorem inputPath_iff (transport colorFormat : UInt32) (frameBytes : UInt64) :
    ((transport != bytes && !surfaceTransport transport) = false ∧
    (transport == bytes && colorFormat != ColorFormat.yuv420Planar &&
      colorFormat != ColorFormat.yuv420Semiplanar) = false ∧
    (surfaceTransport transport && colorFormat != 0) = false ∧
    (surfaceTransport transport = true ∨ frameBytes ≤ maxInputBytes)) ↔
    InputPath transport colorFormat frameBytes := by
  unfold InputPath
  by_cases hbytes : transport = bytes
  · simp [hbytes,bytes_not_surface,Classical.or_iff_not_imp_left]
  · cases hsurface : surfaceTransport transport <;> simp [hbytes]

theorem surfaceTransport_eq (transport : UInt32) :
    (transport == brokerEglSurface || transport == androidAhbSurface ||
      transport == dmabuf) = surfaceTransport transport := rfl

theorem otherTransport_eq (transport : UInt32) :
    (transport != bytes && transport != brokerEglSurface &&
      transport != androidAhbSurface && transport != dmabuf) =
      (transport != bytes && !surfaceTransport transport) := by
  simp only [surfaceTransport,Bool.not_or,bne,Bool.and_assoc]

/-- The bounds in the order in which all three checks list them, after whatever they ask first. -/
theorem limits_iff {first : Prop} {width height bitrate rate : UInt32} :
    ((((((((((first ∧ 16 ≤ width) ∧ width ≤ 8192) ∧ 16 ≤ height) ∧ height ≤ 8192) ∧
      width &&& 1 = 0) ∧ height &&& 1 = 0) ∧ bitrate ≠ 0) ∧ bitrate ≤ maxEncodeBitrate) ∧
      1000 ≤ rate) ∧ rate ≤ 240000) ↔
    first ∧ EvenSide width ∧ EvenSide height ∧ (bitrate ≠ 0 ∧ bitrate ≤ maxEncodeBitrate) ∧
      1000 ≤ rate ∧ rate ≤ 240000 := by
  constructor
  · rintro ⟨⟨⟨⟨⟨⟨⟨⟨⟨⟨hfirst,hw⟩,hw'⟩,hh⟩,hh'⟩,hweven⟩,hheven⟩,hbitrate⟩,hbitrate'⟩,hrate⟩,
      hrate'⟩
    exact ⟨hfirst,⟨hw,hw',hweven⟩,⟨hh,hh',hheven⟩,⟨hbitrate,hbitrate'⟩,hrate,hrate'⟩
  · rintro ⟨hfirst,hw,hh,hbitrate,hrate⟩
    exact ⟨⟨⟨⟨⟨⟨⟨⟨⟨⟨hfirst,hw.lower⟩,hw.upper⟩,hh.lower⟩,hh.upper⟩,hw.even⟩,hh.even⟩,
      hbitrate.1⟩,hbitrate.2⟩,hrate.1⟩,hrate.2⟩

theorem validEncoderConfig_iff (c : BackendConfig) :
    validEncoderConfig c = true ↔ c.direction = encode.toUInt8 ∧ Encodable c := by
  have hcheck (a s q : Prop) [Decidable a] [Decidable s] [Decidable q] :
      (if a then false else if s then true else decide q) = true ↔ ¬ a ∧ (s ∨ q) := by
    by_cases a <;> by_cases s <;> simp [*]
  unfold validEncoderConfig
  rw [hcheck]
  simp only [surfaceTransport_eq,otherTransport_eq,Bool.not_eq_true,Bool.or_eq_false_iff,
    bne_eq_false_iff_eq,decide_eq_false_iff_not,UInt32.not_lt,gt_iff_lt,beq_eq_false_iff_ne]
  rw [limits_iff]
  constructor
  · rintro ⟨⟨⟨⟨hdirection,hmime⟩,hwidth,hheight,hbitrate,hrate⟩,
      ⟨⟨⟨havc,hhevc⟩,hlayout⟩,hsurface⟩,hother⟩,hframe⟩
    exact ⟨hdirection,(profileOf_iff _ _).mp ⟨hmime,havc,hhevc⟩,hwidth,hheight,hbitrate,hrate,
      (inputPath_iff _ _ _).mp ⟨hother,hlayout,hsurface,hframe⟩⟩
  · rintro ⟨hdirection,hprofile,hwidth,hheight,hbitrate,hrate,hinput⟩
    obtain ⟨hmime,havc,hhevc⟩ := (profileOf_iff _ _).mpr hprofile
    obtain ⟨hother,hlayout,hsurface,hframe⟩ := (inputPath_iff _ _ _).mpr hinput
    exact ⟨⟨⟨⟨hdirection,hmime⟩,hwidth,hheight,hbitrate,hrate⟩,
      ⟨⟨⟨havc,hhevc⟩,hlayout⟩,hsurface⟩,hother⟩,hframe⟩

structure Represents (config : BackendConfig) (c : SessionConfig) : Prop where
  direction : config.direction.toUInt32 = c.direction
  mime : config.mime = c.mime
  width : config.width = c.width
  height : config.height = c.height
  bitrate : config.bitrate = c.bitrate
  framerateMilli : config.framerateMilli = c.framerateMilli
  colorFormat : config.colorFormat = c.colorFormat
  transport : config.transport = c.transport
  encodeProfile : config.encodeProfile = c.encodeProfile
  flags : config.flags = c.flags

def encodeConfig (c : SessionConfig) : BackendConfig :=
  { direction := encode.toUInt8
    mime := c.mime
    width := c.width
    height := c.height
    bitrate := c.bitrate
    framerateMilli := c.framerateMilli
    colorFormat := c.colorFormat
    transport := c.transport
    encodeProfile := c.encodeProfile
    flags := c.flags }

theorem encodeFrameSize_isOk_iff (c : SessionConfig) :
    (encodeFrameSize c).isOk = true ↔ c.direction = encode ∧
    (!(c.mime == ascii "video/avc") && !(c.mime == ascii "video/hevc")) = false ∧ c.flags = 0 ∧
    EvenSide c.width ∧ EvenSide c.height ∧ (c.bitrate ≠ 0 ∧ c.bitrate ≤ maxEncodeBitrate) ∧
    (1000 ≤ c.framerateMilli ∧ c.framerateMilli ≤ 240000) ∧
    (c.colorFormat != ColorFormat.yuv420Planar &&
      c.colorFormat != ColorFormat.yuv420Semiplanar) = false ∧ c.frameBytes ≤ maxInputBytes := by
  have hcheck (a b : Prop) [Decidable a] [Decidable b] (e e' : Errno) (n : Nat) :
      (if a then Except.error e else if b then .error e' else .ok n).isOk = true ↔ ¬ a ∧ ¬ b := by
    by_cases a <;> by_cases b <;> simp [*,Except.isOk,Except.toBool]
  unfold encodeFrameSize
  rw [hcheck]
  simp only [Bool.not_eq_true,Bool.or_eq_false_iff,bne_eq_false_iff_eq,decide_eq_false_iff_not,
    UInt32.not_lt,UInt64.not_lt,gt_iff_lt,beq_eq_false_iff_ne]
  rw [limits_iff]
  simp only [and_assoc]
  rfl

theorem encodeSessionCheck_isOk_iff (c : SessionConfig) (hdirection : c.direction = encode) :
    (encodeSessionCheck c).isOk = true ↔ c.flags = 0 ∧ Encodable (encodeConfig c) := by
  have hcheck (a b s d : Prop) [Decidable a] [Decidable b] [Decidable s] [Decidable d]
      (e : Errno) (r : Except Errno Unit) :
      (if a then Except.error e else if b then .error e else
        if s then if d then .error .einval else .ok () else r).isOk = true ↔
        (¬ a ∧ ¬ b) ∧ ((s ∧ ¬ d) ∨ (¬ s ∧ r.isOk = true)) := by
    by_cases a <;> by_cases b <;> by_cases s <;> by_cases d <;>
      simp [*,Except.isOk,Except.toBool]
  have hmap : ((encodeFrameSize c).map fun _ => ()).isOk = (encodeFrameSize c).isOk := by
    cases encodeFrameSize c <;> rfl
  unfold encodeSessionCheck
  rw [hcheck,hmap,encodeFrameSize_isOk_iff]
  simp only [surfaceTransport_eq,otherTransport_eq,Bool.not_eq_true,Bool.or_eq_false_iff,
    bne_eq_false_iff_eq,decide_eq_false_iff_not,UInt32.not_lt,gt_iff_lt,beq_eq_false_iff_ne]
  rw [limits_iff]
  constructor
  · rintro ⟨⟨⟨⟨havc,hhevc⟩,hmime⟩,hother⟩,hsurface | hbytes⟩
    · obtain ⟨hsurface,⟨⟨hlayout,hflags⟩,hwidth,hheight,hbitrate,hrate⟩,_⟩ := hsurface
      exact ⟨hflags,(profileOf_iff _ _).mp ⟨hmime,havc,hhevc⟩,hwidth,hheight,hbitrate,hrate,
        .inr ⟨hsurface,hlayout⟩⟩
    · obtain ⟨hsurface,_,_,hflags,hwidth,hheight,hbitrate,hrate,hlayout,hframe⟩ := hbytes
      refine ⟨hflags,(profileOf_iff _ _).mp ⟨hmime,havc,hhevc⟩,hwidth,hheight,hbitrate,
        hrate,(inputPath_iff _ _ _).mp ⟨hother,?_,?_,.inr hframe⟩⟩
      · rw [Bool.and_assoc]
        exact (congrArg _ hlayout).trans (Bool.and_false _)
      · exact (congrArg (· && _) hsurface).trans (Bool.false_and _)
  · rintro ⟨hflags,hprofile,hwidth,hheight,hbitrate,hrate,hinput⟩
    obtain ⟨hmime,havc,hhevc⟩ := (profileOf_iff _ _).mpr hprofile
    have hother := ((inputPath_iff _ _ _).mpr hinput).1
    refine ⟨⟨⟨⟨havc,hhevc⟩,hmime⟩,hother⟩,?_⟩
    rcases hinput with ⟨hbytes,hlayout,hframe⟩ | ⟨hsurface,hlayout⟩
    · refine .inr ⟨?_,hdirection,hmime,hflags,hwidth,hheight,hbitrate,hrate,?_,hframe⟩
      · exact (congrArg surfaceTransport hbytes).trans bytes_not_surface
      · rw [Bool.and_eq_false_iff,bne_eq_false_iff_eq,bne_eq_false_iff_eq]
        exact hlayout
    · exact .inl ⟨hsurface,⟨⟨hlayout,hflags⟩,hwidth,hheight,hbitrate,hrate⟩,hmime⟩

theorem ProfileOf.mime {m : List UInt8} {profile : UInt32} (h : ProfileOf m profile) :
    0 < m.length ∧ m.length < maxMime ∧ m.take 6 = ascii "video/" := by
  rcases h with ⟨rfl,_⟩ | ⟨rfl,_⟩ <;> decide

theorem createSessionCheck_isOk_iff (c : SessionConfig) (hdirection : c.direction = encode) :
    (createSessionCheck c).isOk = true ↔ c.flags = 0 ∧ Encodable (encodeConfig c) := by
  have hdecode : (c.direction == decode) = false := by
    rw [hdirection]
    decide
  have hencode : (c.direction == encode) = true := beq_iff_eq.mpr hdirection
  rw [← encodeSessionCheck_isOk_iff c hdirection]
  unfold createSessionCheck
  rw [if_neg (Bool.eq_false_iff.mp hdecode),if_pos hencode]
  constructor
  · intro h
    split at h
    · cases h
    · exact h
  · intro h
    have hprofile := ((encodeSessionCheck_isOk_iff c hdirection).mp h).2.profile
    obtain ⟨hpos,hlt,htake⟩ := ProfileOf.mime (m := c.mime) hprofile
    have hlength : c.mimeLength = c.mime.length := Nat.min_eq_left (Nat.le_of_lt hlt)
    rw [if_neg,h]
    simp only [hlength,htake,bne_self_eq_false,Bool.or_false,Bool.or_eq_true,beq_iff_eq,
      decide_eq_true_eq]
    omega

section
variable (c : SessionConfig) (requestId : UInt32)
theorem createMime_createSessionRequest : createMime (createSessionRequest c requestId) =
    c.mime.take c.mimeLength ++ zeros (64 - c.mimeLength) := by
  rw [createMime,createSessionRequest,maxMime,createSessionPayload_mime]

theorem createMime_contains_iff :
    (createMime (createSessionRequest c requestId)).contains 0 = true ↔
      c.mime.length < maxMime := by
  rw [createMime_createSessionRequest,contains_iff_mem,mem_append]
  have hnot : 0 ∉ c.mime.take c.mimeLength := fun h => c.mimeIsString (mem_of_mem_take h)
  rw [or_iff_right hnot,zeros,mem_replicate]
  simp only [and_true,SessionConfig.mimeLength,maxMime]
  omega

theorem cString_createMime (h : c.mime.length < maxMime) :
    cString (createMime (createSessionRequest c requestId)) = c.mime := by
  have hlength : c.mimeLength = c.mime.length := Nat.min_eq_left (Nat.le_of_lt h)
  have hmem : ∀ x ∈ c.mime, (x != 0) = true := by
    intro x hx
    rw [bne_iff_ne]
    exact fun hzero => c.mimeIsString (hzero ▸ hx)
  rw [createMime_createSessionRequest,hlength,take_length,cString,List.takeWhile_append_of_pos hmem,zeros,
    List.takeWhile_replicate]
  exact append_nil _

structure RequestWords (p : List UInt8) : Prop where
  direction : getU32 p 0 = c.direction
  width : getU32 p 4 = c.width
  height : getU32 p 8 = c.height
  bitrate : getU32 p 12 = c.bitrate
  framerateMilli : getU32 p 16 = c.framerateMilli
  flags : getU32 p 20 = c.flags
  colorFormat : getU32 p 88 = c.colorFormat
  transport : getU32 p 92 = defaultTransport c.transport
  encodeProfile : getU32 p 96 = c.encodeProfile

theorem createSessionPayload_words : RequestWords c (createSessionPayload c) := by
  have hhead {w : Nat} (hw : w < 6) :
      word (createSessionPayload c) w = word (createSessionHead c) w := by
    rw [word_createSessionPayload c (.inl hw),if_neg (by omega),if_neg (by omega),
      if_neg (by omega)]
  simp only [word_createSessionHead] at hhead
  have htail {w : Nat} (hw : 22 ≤ w) := word_createSessionPayload c (.inr hw)
  generalize createSessionPayload c = p at hhead htail
  exact ⟨hhead (w := 0) (by decide),hhead (w := 1) (by decide),hhead (w := 2) (by decide),
    hhead (w := 3) (by decide),hhead (w := 4) (by decide),hhead (w := 5) (by decide),
    htail (w := 22) (by decide),htail (w := 23) (by decide),htail (w := 24) (by decide)⟩

theorem defaultTransport_idem (transport : UInt32) :
    defaultTransport (defaultTransport transport) = defaultTransport transport := by
  by_cases h : transport = 0
  · subst h
    decide
  · simp [defaultTransport,h]

theorem createConfig_createSessionRequest (hdirection : c.direction = encode)
    (hmime : c.mime.length < maxMime) :
    createConfig (createSessionRequest c requestId) =
      { encodeConfig c with transport := defaultTransport c.transport } := by
  have hpayload : (createSessionRequest c requestId).payload = createSessionPayload c := by
    rw [createSessionRequest]
  obtain ⟨h0,h4,h8,h12,h16,h20,h88,h92,h96⟩ := createSessionPayload_words c
  rw [createConfig,cString_createMime c requestId hmime,hpayload,h0,h4,h8,h12,h16,h20,h88,
    h92,h96,hdirection,encodeConfig]
  simp only [BackendConfig.mk.injEq,true_and,and_true]
  exact defaultTransport_idem c.transport

theorem Encodable.defaultTransport_iff (config : BackendConfig) :
    Encodable { config with transport := defaultTransport config.transport } ↔
      Encodable config := by
  constructor
  · rintro ⟨hprofile,hwidth,hheight,hbitrate,hrate,hinput⟩
    refine ⟨hprofile,hwidth,hheight,hbitrate,hrate,?_⟩
    rw [defaultTransport_idem] at hinput
    exact hinput
  · rintro ⟨hprofile,hwidth,hheight,hbitrate,hrate,hinput⟩
    refine ⟨hprofile,hwidth,hheight,hbitrate,hrate,?_⟩
    rw [defaultTransport_idem]
    exact hinput
variable {ω : Type}
structure EncodeCallbacks (b : BackendOps ω) : Prop where
  receiveAhbInput : b.receiveAhbInput.isSome = true
  dmabufFormatAllowed : b.dmabufFormatAllowed.isSome = true
  submitDmabuf : b.submitDmabuf.isSome = true

theorem encodeFrameSizeFor_isOk_iff {b : BackendOps ω} (hb : EncodeCallbacks b)
    (config : BackendConfig) :
    (encodeFrameSizeFor b versionMinor config).isOk = true ↔
      (config.transport = bytes → encodeFrameBytes config ≤ maxInputBytes) := by
  have hahb : b.receiveAhbInput.isNone = false := Option.isNone_eq_false_iff.mpr hb.receiveAhbInput
  have hallowed : b.dmabufFormatAllowed.isNone = false :=
    Option.isNone_eq_false_iff.mpr hb.dmabufFormatAllowed
  have hsubmit : b.submitDmabuf.isNone = false := Option.isNone_eq_false_iff.mpr hb.submitDmabuf
  have h3 : decide (versionMinor < 3) = false := by decide
  have h4 : decide (versionMinor < 4) = false := by decide
  have h5 : decide (versionMinor < 5) = false := by decide
  unfold encodeFrameSizeFor
  simp only [hahb,hallowed,hsubmit,h3,h4,h5,Bool.and_false,Bool.or_false,Bool.false_eq_true,
    if_false,beq_iff_eq,gt_iff_lt]
  by_cases hbytes : config.transport = bytes
  · by_cases hsize : maxInputBytes < encodeFrameBytes config
    · simp [hbytes,hsize,Except.isOk,Except.toBool,UInt64.not_le]
    · simp [hbytes,hsize,Except.isOk,Except.toBool,UInt64.not_lt.mp hsize]
  · simp [hbytes,Except.isOk,Except.toBool]

theorem encodeConfigValid_iff {config : BackendConfig}
    (hdefault : defaultTransport config.transport = config.transport) :
    (encodeConfigValid config = true ∧
    (config.transport = bytes → encodeFrameBytes config ≤ maxInputBytes) ∧
    (16 ≤ config.width ∧ config.width ≤ 8192) ∧ (16 ≤ config.height ∧ config.height ≤ 8192) ∧
    config.framerateMilli ≤ 240000) ↔ Encodable config := by
  unfold encodeConfigValid
  simp only [Bool.not_eq_true',Bool.or_eq_false_iff,bne_eq_false_iff_eq,decide_eq_false_iff_not,
    UInt32.not_lt,gt_iff_lt,beq_eq_false_iff_ne]
  constructor
  · rintro ⟨⟨⟨⟨⟨⟨⟨⟨⟨⟨⟨hmime,hbitrate⟩,hbitrate'⟩,hrate⟩,hweven⟩,hheven⟩,hother⟩,hlayout⟩,
      hsurface⟩,havc⟩,hhevc⟩,hframe,hw,hh,hrate'⟩
    refine ⟨(profileOf_iff _ _).mp ⟨hmime,havc,hhevc⟩,⟨hw.1,hw.2,hweven⟩,
      ⟨hh.1,hh.2,hheven⟩,⟨hbitrate,hbitrate'⟩,⟨hrate,hrate'⟩,?_⟩
    rw [hdefault,← inputPath_iff]
    refine ⟨hother,hlayout,hsurface,?_⟩
    rw [Bool.and_eq_false_iff,bne_eq_false_iff_eq,Bool.not_eq_false'] at hother
    exact hother.symm.imp_right hframe
  · rintro ⟨hprofile,hwidth,hheight,hbitrate,hrate,hinput⟩
    obtain ⟨hmime,havc,hhevc⟩ := (profileOf_iff _ _).mpr hprofile
    rw [hdefault,← inputPath_iff] at hinput
    obtain ⟨hother,hlayout,hsurface,hframe⟩ := hinput
    refine ⟨⟨⟨⟨⟨⟨⟨⟨⟨⟨⟨hmime,hbitrate.1⟩,hbitrate.2⟩,hrate.1⟩,hwidth.even⟩,hheight.even⟩,
      hother⟩,hlayout⟩,hsurface⟩,havc⟩,hhevc⟩,fun hbytes => hframe.resolve_left ?_,
      ⟨hwidth.lower,hwidth.upper⟩,⟨hheight.lower,hheight.upper⟩,hrate.2⟩
    rw [hbytes,bytes_not_surface]
    decide

theorem createRequest_encode {b : BackendOps ω} (hb : EncodeCallbacks b)
    (hdirection : c.direction = encode) :
    (createRequest b (createSessionRequest c requestId)).isOk = true ↔
      createValid (createSessionRequest c requestId) = true ∧
      encodeConfigValid (createConfig (createSessionRequest c requestId)) = true ∧
      ((createConfig (createSessionRequest c requestId)).transport = bytes →
        encodeFrameBytes (createConfig (createSessionRequest c requestId)) ≤ maxInputBytes) := by
  have hcheck (v e : Bool) (config : BackendConfig) (r : Except Status Nat) :
      (if (!v) = true then Except.error Status.badMessage
        else if (!e) = true then .error Status.badMessage
        else r.map fun size => (config, size)).isOk = true ↔
      v = true ∧ e = true ∧ r.isOk = true := by
    cases v <;> cases e <;> cases r <;> simp [Except.isOk,Except.toBool,Except.map]
  have hpayload : (createSessionRequest c requestId).payload = createSessionPayload c := by
    rw [createSessionRequest]
  have hheader : (createSessionRequest c requestId).header =
      { versionMinor := versionMinor, opcode := 3, requestId := requestId, sessionId := 0,
        payloadSize := 100 } := by
    rw [createSessionRequest]
  have hdecode : (getU32 (createSessionRequest c requestId).payload 0 == decode) =
      false := by
    rw [hpayload,(createSessionPayload_words c).direction,hdirection]
    decide
  have hminor : ¬ versionMinor < 7 := by decide
  rw [← encodeFrameSizeFor_isOk_iff hb,
    ← hcheck _ _ (createConfig (createSessionRequest c requestId))]
  unfold createRequest
  simp only [hdecode,hheader,hminor,bne_self_eq_false,Bool.or_self,Bool.false_eq_true,if_false]

theorem createValid_iff (hdirection : c.direction = encode) (hmime : c.mime.length < maxMime) :
    createValid (createSessionRequest c requestId) = true ↔
      c.flags = 0 ∧ (16 ≤ c.width ∧ c.width ≤ 8192) ∧ (16 ≤ c.height ∧ c.height ≤ 8192) ∧
      c.framerateMilli ≤ 240000 ∧
      (createMime (createSessionRequest c requestId)).take 6 = ascii "video/" := by
  have hpayload : (createSessionRequest c requestId).payload = createSessionPayload c := by
    rw [createSessionRequest]
  have hknown : (c.direction != decode && c.direction != encode) = false := by
    rw [hdirection]
    decide
  unfold createValid
  dsimp only
  rw [createConfig_createSessionRequest c requestId hdirection hmime,hpayload,
    (createSessionPayload_words c).direction,hknown,
    (createMime_contains_iff c requestId).mpr hmime,encodeConfig]
  simp only [Bool.not_eq_true',Bool.or_eq_false_iff,bne_eq_false_iff_eq,decide_eq_false_iff_not,
    UInt32.not_lt,gt_iff_lt,Bool.not_true,true_and,and_true,and_assoc]

theorem createRequest_isOk_iff {b : BackendOps ω} (hb : EncodeCallbacks b)
    (hdirection : c.direction = encode) :
    (createRequest b (createSessionRequest c requestId)).isOk = true ↔
      c.flags = 0 ∧ Encodable (encodeConfig c) := by
  rw [createRequest_encode c requestId hb hdirection]
  by_cases hmime : c.mime.length < maxMime
  · have hconfig := createConfig_createSessionRequest c requestId hdirection hmime
    rw [createValid_iff c requestId hdirection hmime,hconfig,← Encodable.defaultTransport_iff,
      ← encodeConfigValid_iff (defaultTransport_idem c.transport)]
    constructor
    · rintro ⟨⟨hflags,hw,hh,hrate,_⟩,hvalid,hframe⟩
      exact ⟨hflags,hvalid,hframe,hw,hh,hrate⟩
    · rintro ⟨hflags,hvalid,hframe,hw,hh,hrate⟩
      refine ⟨⟨hflags,hw,hh,hrate,?_⟩,hvalid,hframe⟩
      have hencodable := (encodeConfigValid_iff (defaultTransport_idem c.transport)).mp
        ⟨hvalid,hframe,hw,hh,hrate⟩
      obtain ⟨_,_,htake⟩ := ProfileOf.mime (m := c.mime) hencodable.profile
      have hsix : 6 ≤ c.mime.length := by
        have hlength := congrArg List.length htake
        rw [length_take,show (ascii "video/").length = 6 from by decide] at hlength
        omega
      rw [createMime_createSessionRequest,SessionConfig.mimeLength,
        Nat.min_eq_left (Nat.le_of_lt hmime),take_length,take_append_of_le_length hsix,
        htake]
  · constructor
    · rintro ⟨hvalid,_⟩
      refine absurd ((createMime_contains_iff c requestId).mp ?_) hmime
      unfold createValid at hvalid
      simp only [Bool.not_eq_true',Bool.or_eq_false_iff,Bool.not_eq_false'] at hvalid
      exact hvalid.1.2
    · rintro ⟨_,hencodable⟩
      exact absurd (ProfileOf.mime (m := c.mime) hencodable.profile).2.1 hmime
end

/-- The client, the engine and the backend accept the same encode sessions. The backend does not
look at the flags, which the other two want to be zero. -/
theorem encodeConfig_agreement {ω : Type} {b : BackendOps ω} (hb : EncodeCallbacks b)
    (c : SessionConfig) (requestId : UInt32) :
    ((c.direction = encode ∧ (createSessionCheck c).isOk = true) ↔ (c.direction = encode ∧
      (createRequest b (createSessionRequest c requestId)).isOk = true)) ∧
    ((c.direction = encode ∧ (createSessionCheck c).isOk = true) ↔
      c.flags = 0 ∧ ∃ config, Represents config c ∧ validEncoderConfig config = true) := by
  constructor
  · refine and_congr_right fun hdirection => ?_
    rw [createSessionCheck_isOk_iff c hdirection,createRequest_isOk_iff c requestId hb hdirection]
  constructor
  · rintro ⟨hdirection,hcheck⟩
    obtain ⟨hflags,hencodable⟩ := (createSessionCheck_isOk_iff c hdirection).mp hcheck
    refine ⟨hflags,encodeConfig c,⟨?_,rfl,rfl,rfl,rfl,rfl,rfl,rfl,rfl,rfl⟩,?_⟩
    · rw [hdirection]
      rfl
    · exact (validEncoderConfig_iff _).mpr ⟨rfl,hencodable⟩
  · rintro ⟨hflags,config,hrepresents,hvalid⟩
    obtain ⟨hdirection,hencodable⟩ := (validEncoderConfig_iff config).mp hvalid
    have hencode : c.direction = encode := by
      rw [← hrepresents.direction,hdirection]
      decide
    have hconfig : config = encodeConfig c := by
      obtain ⟨_,hmime,hwidth,hheight,hbitrate,hrate,hformat,htransport,hprofile,hflags⟩ :=
        hrepresents
      cases config
      simp only at hdirection hmime hwidth hheight hbitrate hrate hformat htransport hprofile hflags
      rw [encodeConfig,hdirection,hmime,hwidth,hheight,hbitrate,hrate,hformat,htransport,
        hprofile,hflags]
    exact ⟨hencode,(createSessionCheck_isOk_iff c hencode).mpr ⟨hflags,hconfig ▸ hencodable⟩⟩

def fullHdConfig : SessionConfig where
  mime := ascii "video/avc"
  direction := encode
  width := 1920
  height := 1080
  bitrate := 8000000
  framerateMilli := 60000
  colorFormat := 0
  transport := dmabuf
  encodeProfile := h264High
  flags := 0
  mimeIsString := by decide

theorem encodeConfig_agreement_fullHd : (createSessionCheck fullHdConfig).isOk = true ∧
    (createRequest (mockBackend (mockOutput 1 0 0 (-1)) (0, -1))
      (createSessionRequest fullHdConfig 7)).isOk = true ∧
    ∃ config, Represents config fullHdConfig ∧ validEncoderConfig config = true := by
  have hb : EncodeCallbacks (mockBackend (mockOutput 1 0 0 (-1)) (0, -1)) := ⟨rfl,rfl,rfl⟩
  have hcheck : (createSessionCheck fullHdConfig).isOk = true := by decide +kernel
  obtain ⟨hengine,hbackend⟩ := encodeConfig_agreement hb fullHdConfig 7
  exact ⟨hcheck,(hengine.mp ⟨rfl,hcheck⟩).2,(hbackend.mp ⟨rfl,hcheck⟩).2⟩
end LinDeX.Android
