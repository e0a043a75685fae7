import LinDeX.Bitstream.Writer
import LinDeX.Decode.Picture
import LinDeX.Library.Run

/-!
# Submitting a picture

`end_picture` for the three codecs: the staged slices become an access unit, which is queued under
the next timestamp, and the target surface waits for it. Then the private end-of-stream calls.
-/
namespace LinDeX.Decode
open Vaapi Dmabuf Program
variable {ω : Type} (env : Env ω)

section
variable (i : Fin 4) (contextId : UInt32) (k : Fin 64)
/-- `reserve_surface_linear`; `false` is a failed reservation. -/
def reserveSurfaceLinear (ptsNs : UInt64) : Prog ω Bool := do
  let c ← context i
  let async ← exactEnv env "ADVC_VAAPI_ASYNC_EXPORT" "candidate-firefox-bframe-v1"
  if !c.asyncDecodePrime || !async then return true
  let reserved ← io fun w =>
    env.client.reserveLinear w c.brokerFd c.brokerSession ptsNs c.width c.height
  if reserved.1 ≠ Reply.ok then
    descriptorClose env reserved.2
    return false
  note (.reserved i reserved.2.bufferId ptsNs)
  modifySurface k fun s =>
    { s with prime := reserved.2, brokerBufferId := reserved.2.bufferId, primeReserved := true,
             ptsNs := ptsNs, ownerContext := contextId, ownerSession := c.brokerSession }
  return true

def queueAccessUnit (bytes : List UInt8) (ptsNs : UInt64) (flags : UInt32) : Prog ω Bool := do
  let reserved ← reserveSurfaceLinear env i contextId k ptsNs
  if !reserved then return false
  let queued ← queueBytesWithDrain env i bytes ptsNs flags queueAttempts
  if queued then return true
  let s ← surface k
  whenever s.primeReserved (releaseSurfaceOutput env k)
  return false

def markPending (ptsNs : UInt64) : Prog ω Unit := do
  let c ← context i
  modifySurface k fun s =>
    { s with state := .pending, ptsNs := ptsNs, ownerContext := contextId,
             ownerSession := c.brokerSession }

def takePts : Prog ω (Option UInt64) := do
  let rt ← runtime
  if rt.nextPtsNs > int64Max - ptsStepNs then return none
  modifyRuntime fun rt => { rt with nextPtsNs := rt.nextPtsNs + ptsStepNs }
  note (.stamped i k rt.nextPtsNs)
  return some rt.nextPtsNs

def sliceInputs (c : Context) (data : List UInt8) : Option (List (List UInt8 × SliceParameter)) :=
  (c.sliceParameters c.codec).mapM fun p =>
    if p.sliceDataFlag ≠ sliceDataFlagAll ∨ p.sliceDataOffset.toNat > c.sliceDataSize ∨
        p.sliceDataSize.toNat > c.sliceDataSize - p.sliceDataOffset.toNat then none
    else some ((data.drop p.sliceDataOffset.toNat).take p.sliceDataSize.toNat, p)

def accessUnitFlags (start : Bool) : UInt32 := if start then Flag.keyFrame else 0

/-- The end of `end_hevc_picture_locked`, from the first timestamp on. -/
def submitHevc (unit : AccessUnit) (config : List UInt8) : Prog ω VaStatus := do
  match ← takePts i k with
  | none => return .operationFailed
  | some pts =>
    let c ← context i
    let sent ←
      (if !c.configured ∨ c.hevcLastConfig ≠ config then
        queueBytesWithDrain env i config pts Flag.codecConfig queueAttempts
      else pure true)
    if !sent then return .operationFailed
    modifyContext i fun c => { c with hevcLastConfig := config, configured := true }
    let queued ← queueAccessUnit env i contextId k unit.bytes pts (accessUnitFlags unit.start)
    if !queued then return .operationFailed
    markPending i contextId k pts
    return .success

/-- `end_hevc_picture_locked`, before staging is reset. -/
def endHevcPicture (data : List UInt8) : Prog ω VaStatus := do
  let c ← context i
  let slices ← io fun w => env.process.malloc w c.sliceCount
  if !slices then return .allocationFailed
  match sliceInputs c data with
  | none => return .invalidParameter
  | some inputs =>
    match ← io fun w => env.bitstream.hevcAccessUnit w inputs with
    | .error e => return statusForErrno e
    | .ok unit =>
      match env.bitstream.hevcCodecConfig ⟨c.picture .hevc,c.width,c.height⟩ unit.ppsId with
      | .error e => return statusForErrno e
      | .ok config =>
        if !c.configured ∧ !unit.start then return .decodingError
        if c.configured ∧ !unit.start ∧ c.hevcLastConfig ≠ config then return .decodingError
        submitHevc env i contextId k unit config

/-- `end_vp9_picture_locked`, before staging is reset. -/
def endVp9Picture (data : List UInt8) : Prog ω VaStatus := do
  let c ← context i
  match c.sliceParameters .vp9 with
  | [slice] =>
    match ← io fun w =>
        env.bitstream.vp9AccessUnit w (c.picture .vp9) slice data c.width c.height with
    | .error e => return statusForErrno e
    | .ok unit =>
      if !c.configured ∧ !unit.start then return .decodingError
      match ← takePts i k with
      | none => return .operationFailed
      | some pts =>
        let queued ← queueAccessUnit env i contextId k unit.bytes pts (accessUnitFlags unit.start)
        if !queued then return .operationFailed
        modifyContext i fun c => { c with configured := true }
        markPending i contextId k pts
        return .success
  | _ => return .decodingError

def bitstreamRestriction (profile : VaProfile) (numRefFrames : UInt8) :
    Prog ω (Option (UInt8 × UInt8)) := do
  let four ← exactEnv env "ADVC_VAAPI_H264_REORDER_BOUND" "validated-main-reorder4-v1"
  let two ← exactEnv env "ADVC_VAAPI_H264_REORDER_BOUND" "candidate-firefox-pts-reorder2-v1"
  let one ← exactEnv env "ADVC_VAAPI_H264_REORDER_BOUND" "validated-main-reorder1-v1"
  let one' ← exactEnv env "ADVC_VAAPI_H264_REORDER_BOUND" "candidate-firefox-pts-reorder1-v1"
  let zero ← exactEnv env "ADVC_VAAPI_H264_REORDER_BOUND" "candidate-firefox-pts-reorder0-v1"
  return if profile ≠ .h264Main then none
    else if four then some (4, max numRefFrames 4)
    else if two then some (2, max numRefFrames 2)
    else if one || one' then some (1, max numRefFrames 1)
    else if zero then some (0, max numRefFrames 4)
    else none

def learnPpsDefaults (refs : ReferenceOverride) (active : UInt8 × UInt8) (c : Context) : Context :=
  if refs.usesReferenceLists && !refs.overridePresent then
    { c with
      ppsL0DefaultActiveMinus1 := active.1
      ppsL0Known := true
      ppsL1DefaultActiveMinus1 :=
        if refs.usesList1 then active.2 else c.ppsL1DefaultActiveMinus1
      ppsL1Known := refs.usesList1 || c.ppsL1Known }
  else c

/-- `codec_config_sps_size`: where the second start code begins, `0` when there is none. -/
def codecConfigSpsSize (config : List UInt8) : Nat :=
  (((List.range config.length).filter fun j =>
    decide (4 ≤ j) && (config.drop j).take 4 == [0,0,0,1]).head?).getD 0

def sameSps (old new : List UInt8) : Bool :=
  let oldSize := codecConfigSpsSize old
  let newSize := codecConfigSpsSize new
  !(oldSize == 0 || newSize == 0 || oldSize != newSize) && old.take newSize == new.take newSize

section
open AnnexB List
theorem codecConfigSpsSize_framed {sps : List UInt8} (pps : List UInt8) (h : Delimited sps) :
    codecConfigSpsSize (framed sps ++ framed pps) = 4 + sps.length := by
  have hdrop (j : Nat) : (framed sps ++ framed pps).drop (4 + j) = (sps ++ framed pps).drop j :=
    @drop_length_add_append _ [0,0,0,1] _ _
  rw [codecConfigSpsSize,head?_filter,find?_range_eq_some.mpr,Option.getD_some]
  refine ⟨?_,?_,fun j hj => ?_⟩
  · rw [hdrop,drop_left]
    simp [framed]
  · rw [mem_range,length_append]
    simp [framed]
    omega
  · -- inside the unit no start code begins
    rw [Bool.not_eq_true',Bool.and_eq_false_imp,decide_eq_true_eq]
    intro hfour
    obtain ⟨j,rfl⟩ := Nat.exists_eq_add_of_le hfour
    have hends := endsUnit_drop (h.2 pps) (Nat.lt_of_add_lt_add_left hj)
    rw [hdrop,beq_eq_false_iff_ne]
    intro hcode
    rw [← take_append_drop 4 ((sps ++ framed pps).drop j),hcode] at hends
    cases hends

/-- Between two configurations the check finds the end of the sequence parameter set and whether it
is the same, whatever the picture parameter sets are. No payload that `finish_rbsp` has finished
ends with a zero byte. -/
theorem sameSps_iff (sps sps' pps pps' : List UInt8) (h : sps.getLast? ≠ some 0)
    (h' : sps'.getLast? ≠ some 0) :
    (sameSps (framed ([0x67] ++ escape 0 sps) ++ framed pps)
      (framed ([0x67] ++ escape 0 sps') ++ framed pps') = true ↔ sps = sps') ∧
    codecConfigSpsSize (framed ([0x67] ++ escape 0 sps) ++ framed pps) =
      (framed ([0x67] ++ escape 0 sps)).length ∧
    ∀ f m bits w, Bitstream.Writes f m bits → bits.length + 8 ≤ 8 * f.capacity →
      Bitstream.rbsp f m = .ok w → w.data.getLast? ≠ some 0 := by
  have hheader : ∀ byte ∈ [(0x67 : UInt8)], byte ≠ 0 := forall_mem_singleton.mpr (by decide)
  have hsize := codecConfigSpsSize_framed pps (delimited_escape hheader h)
  refine ⟨?_,hsize.trans (Nat.add_comm ..),fun f m bits w hwrites hroom hrun => ?_⟩
  · rw [sameSps,hsize,codecConfigSpsSize_framed pps' (delimited_escape hheader h')]
    constructor
    · intro hsame
      simp only [Bool.and_eq_true,Bool.not_eq_true',Bool.or_eq_false_iff,bne_eq_false_iff_eq,
        beq_iff_eq] at hsame
      obtain ⟨⟨-,hsize⟩,hbytes⟩ := hsame
      have htake (unit rest : List UInt8) :
          (framed unit ++ rest).take (4 + unit.length) = framed unit :=
        take_left' (Nat.add_comm unit.length 4)
      rw [htake,← hsize,htake] at hbytes
      have hescaped : escape 0 sps = escape 0 sps' := congrArg (drop 5) hbytes
      rw [← unescape_escape 0 sps,hescaped,unescape_escape]
    · rintro rfl
      simp [framed,Nat.add_comm 4]
  · obtain ⟨w',hrun', -,zeros,hzeros,hdata⟩ := hwrites.finish (Nat.le_refl _) hroom
    cases hrun.symm.trans hrun'
    exact getLast_ne_zero hzeros hdata

theorem sameSps_iff_pps_update :
    sameSps (framed [0x67,66,0,0,3,1] ++ framed [0x68,0x80])
      (framed [0x67,66,0,0,3,1] ++ framed [0x68,0xe0]) = true ∧
    codecConfigSpsSize (framed [0x67,66,0,0,3,1] ++ framed [0x68,0x80]) = 10 :=
  have h := sameSps_iff [66,0,0,1] [66,0,0,1] [0x68,0x80] [0x68,0xe0] (by decide) (by decide)
  ⟨h.1.mpr rfl,h.2.1⟩
end

/-- The end of `end_picture`, from the first timestamp on. -/
def submitH264 (unit : AccessUnit) (config : List UInt8) (changed : Bool) : Prog ω VaStatus := do
  note (.built i config unit.bytes)
  match ← takePts i k with
  | none => return .operationFailed
  | some pts =>
    let c ← context i
    let inbandSet ← exactEnv env "ADVC_VAAPI_H264_INBAND_CONFIG_UPDATE" "validated-pps-v1"
    let inband := changed && c.configured && inbandSet
    let prepended ←
      (if inband then io fun w => env.bitstream.h264PrependCodecConfig w config unit.bytes
      else pure (Except.ok unit.bytes))
    match prepended with
    | .error e => return statusForErrno e
    | .ok bytes =>
      let sent ←
        (if changed && !inband then
          queueBytesWithDrain env i config pts Flag.codecConfig queueAttempts
        else pure true)
      if !sent then return .operationFailed
      whenever (changed && !inband)
        (modifyContext i fun c => { c with lastConfig := config, configured := true })
      let queued ← queueAccessUnit env i contextId k bytes pts (accessUnitFlags unit.start)
      if !queued then return .operationFailed
      whenever inband
        (modifyContext i fun c => { c with lastConfig := config, configured := true })
      markPending i contextId k pts
      return .success

/-- The H.264 part of `end_picture`, before staging is reset. -/
def endH264Picture (profile : VaProfile) (data : List UInt8) : Prog ω VaStatus := do
  let c ← context i
  let slices ← io fun w => env.process.malloc w c.sliceCount
  if !slices then return .allocationFailed
  match sliceInputs c data with
  | none => return .invalidParameter
  | some inputs =>
    match ← io fun w => env.bitstream.h264AccessUnit w inputs with
    | .error e => return statusForErrno e
    | .ok unit =>
      let restriction ← bitstreamRestriction env profile (env.libva.numRefFrames (c.picture .h264))
      let parameters : H264Parameters :=
        { picture := c.picture .h264
          profileIdc := if profile = .h264ConstrainedBaseline then 66 else 77
          visibleWidth := c.width
          visibleHeight := c.height
          bitstreamRestriction := restriction
          l0DefaultActiveMinus1 := c.ppsL0DefaultActiveMinus1
          l1DefaultActiveMinus1 := c.ppsL1DefaultActiveMinus1 }
      let first := (inputs.head?.map Prod.fst).getD []
      match env.bitstream.h264ReferenceOverride first parameters with
      | .error e => return statusForErrno e
      | .ok refs =>
        let active := ((inputs.head?.map Prod.snd).map env.libva.activeRefs).getD (0, 0)
        modifyContext i (learnPpsDefaults refs active)
        let c ← context i
        let parameters :=
          { parameters with
            l0DefaultActiveMinus1 := if c.ppsL0Known then c.ppsL0DefaultActiveMinus1 else 0
            l1DefaultActiveMinus1 := if c.ppsL1Known then c.ppsL1DefaultActiveMinus1 else 0 }
        match env.bitstream.h264CodecConfig parameters unit.ppsId with
        | .error e => return statusForErrno e
        | .ok config =>
          let changed := !c.configured || c.lastConfig != config
          if c.configured ∧ !unit.start ∧ changed ∧ !sameSps c.lastConfig config then
            return .decodingError
          submitH264 env i contextId k unit config changed

end

/-- The body of `end_picture` for an active picture, before staging is reset. -/
def endActivePicture (rt : Runtime) (i : Fin 4) (contextId : UInt32) : Prog ω VaStatus :=
  let c := rt.contexts i
  match getSurface rt c.target, getConfig rt c.configId, c.sliceData with
  | some k, some g, some data =>
    if !c.havePicture ∨ c.sliceCount = 0 ∨ c.sliceDataBoundCount ≠ c.sliceCount then
      pure .decodingError
    else
      match (rt.configs g).profile with
      | .hevcMain => endHevcPicture env i contextId k data
      | .vp9Profile0 => endVp9Picture env i contextId k data
      | profile => endH264Picture env i contextId k profile data
  | _, _, _ => pure .decodingError

def endPicture (contextId : UInt32) : Prog ω VaStatus := do
  let rt ← runtime
  match getContext rt contextId with
  | none => return .invalidContext
  | some i =>
    if !(rt.contexts i).pictureActive then return .operationFailed
    let status ← endActivePicture env rt i contextId
    modifyContext i resetStaging
    return status

def privateEosImmediateStatus (status : Option EosStatus) (result : EosResult)
    (phase : EosPhase) (flags : UInt32) : EosResult × Option EosStatus :=
  match status with
  | none => (.invalidArgument, none)
  | some s =>
    if s.structSize < eosStatusSize then (.invalidArgument, some s)
    else
      (result, some
        { structSize := s.structSize, abiVersion := eosAbiVersion, phase := phase,
          flags := flags, lastResult := result })

def eosGateEnabled : Prog ω Bool :=
  exactEnv env "ADVC_VAAPI_ENABLE_PRIVATE_DECODE_EOS" "validated-signal-progress-v1"

def signalEosPrivate (contextId : UInt32) (status : Option EosStatus) :
    Prog ω (EosResult × Option EosStatus) := do
  let enabled ← eosGateEnabled env
  if !enabled then return privateEosImmediateStatus status .disabled .opened 0
  let rt ← runtime
  match getContext rt contextId with
  | none => return privateEosImmediateStatus status .invalidContext .failed EosFlag.failed
  | some i =>
    if (rt.contexts i).pictureActive then
      return privateEosImmediateStatus status .invalidArgument (rt.contexts i).eos.phase 0
    let ended ← withAdapter i (eosStateSignal (privateEosOps env i) status)
    return (ended.1.result, ended.1.status)

def progressEosPrivate (contextId : UInt32) (maxOutputs : Nat) (status : Option EosStatus) :
    Prog ω (EosResult × Option EosStatus) := do
  let enabled ← eosGateEnabled env
  if !enabled then return privateEosImmediateStatus status .disabled .opened 0
  let rt ← runtime
  match getContext rt contextId with
  | none => return privateEosImmediateStatus status .invalidContext .failed EosFlag.failed
  | some i =>
    let ended ← privateEosProgressLocked env i maxOutputs status
    return (ended.result, ended.status)

inductive Call where
  | createConfig (profile : VaProfile) (entrypoint : VaEntrypoint)
      (attributes : List ConfigAttrib)
  | destroyConfig (configId : UInt32)
  | createSurfaces (format width height : UInt32) (count : Nat) (attributes : List SurfaceAttrib)
  | destroySurfaces (ids : List UInt32)
  | createContext (configId : UInt32) (width height : Int) (targets : List UInt32)
  | destroyContext (contextId : UInt32)
  | createBuffer (contextId : UInt32) (type : VaBufferType) (size numElements : UInt32)
      (data : Option (List UInt8))
  | setNumElements (bufferId numElements : UInt32)
  | mapBuffer (bufferId : UInt32)
  | writeMapped (bufferId : UInt32) (bytes : List UInt8)
  | unmapBuffer (bufferId : UInt32)
  | destroyBuffer (bufferId : UInt32)
  | beginPicture (contextId target : UInt32) (rounds : Nat)
  | renderPicture (contextId : UInt32) (bufferIds : List UInt32)
  | endPicture (contextId : UInt32)
  | syncSurface (surfaceId : UInt32) (timeoutNs : UInt64) (rounds : Nat)
  | querySurfaceStatus (surfaceId : UInt32)
  | signalEos (contextId : UInt32) (status : Option EosStatus)
  | progressEos (contextId : UInt32) (maxOutputs : Nat) (status : Option EosStatus)

def Call.prog : Call → Prog ω Unit
  | .createConfig profile entrypoint attributes =>
    discard (Decode.createConfig profile entrypoint attributes)
  | .destroyConfig configId => discard (Decode.destroyConfig configId)
  | .createSurfaces format width height count attributes =>
    discard (Decode.createSurfaces format width height count attributes)
  | .destroySurfaces ids => discard (Decode.destroySurfaces env ids)
  | .createContext configId width height targets =>
    discard (Decode.createContext env configId width height targets)
  | .destroyContext contextId => discard (Decode.destroyContext env contextId)
  | .createBuffer contextId type size numElements data =>
    discard (Decode.createBuffer env contextId type size numElements data)
  | .setNumElements bufferId numElements =>
    discard (Decode.bufferSetNumElements bufferId numElements)
  | .mapBuffer bufferId => discard (Decode.mapBuffer bufferId)
  | .writeMapped bufferId bytes => Decode.writeMapped bufferId bytes
  | .unmapBuffer bufferId => discard (Decode.unmapBuffer bufferId)
  | .destroyBuffer bufferId => discard (Decode.destroyBuffer bufferId)
  | .beginPicture contextId target rounds =>
    discard (Decode.beginPicture env contextId target rounds)
  | .renderPicture contextId bufferIds => discard (Decode.renderPicture env contextId bufferIds)
  | .endPicture contextId => discard (Decode.endPicture env contextId)
  | .syncSurface surfaceId timeoutNs rounds =>
    discard (Decode.syncSurface env surfaceId timeoutNs rounds)
  | .querySurfaceStatus surfaceId => discard (Decode.querySurfaceStatus env surfaceId)
  | .signalEos contextId status => discard (Decode.signalEosPrivate env contextId status)
  | .progressEos contextId maxOutputs status =>
    discard (Decode.progressEosPrivate env contextId maxOutputs status)

def step (s : Machine ω) (call : Call) : Machine ω × List Event :=
  let s' := (call.prog env { s with events := [] }).2
  (s', s'.events)

def runCalls (s : Machine ω) (calls : List Call) : Machine ω × List Event :=
  Run.run (step env) s calls

def Machine.create (policy : Policy) (w : ω) : Option (Machine ω) :=
  (configureConsumerPolicy env w).map fun p =>
    ⟨Runtime.create policy p.1 p.2,w,[],[]⟩

def Reachable (policy : Policy) (s : Machine ω) : Prop :=
  ∃ w s₀ calls, Machine.create env policy w = some s₀ ∧ (runCalls env s₀ calls).1 = s
end LinDeX.Decode
