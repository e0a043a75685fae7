import LinDeX.Library.Buffer
import LinDeX.Library.Leb128
import LinDeX.Protocol.Wire

/-!
# Access units of AV1

`advc_vaapi_decode_av1.c` takes the data of a frame as OBUs with size fields or as one temporal unit
in Annex B framing, and emits OBUs with size fields. `errno` is cleared before a parser runs;
failures that do not set it are `none`.
-/
namespace LinDeX.Av1
open Buffer
/-- The fields of `VADecPictureParameterBufferAV1` that are read. -/
structure Picture where
  (profile bitDepthIdx : UInt8)
  (monoChrome subsamplingX subsamplingY stillPicture largeScaleTile frameType showFrame : UInt32)
  anchorFramesNum : UInt8
  (frameWidthMinus1 frameHeightMinus1 : UInt16)
  (tileCols tileRows : UInt8)
  deriving DecidableEq, Repr

/-- `VASliceParameterBufferAV1`. -/
structure Tile where
  (sliceDataSize sliceDataOffset sliceDataFlag : UInt32)
  (tileRow tileColumn : UInt16)
  deriving DecidableEq, Repr

def maxTiles : Nat := 512
def maxObus : Nat := 1024
def sizeMax : Nat := 2 ^ 64 - 1

/-- The result of a parser; an error may leave `errno` cleared. -/
abbrev Parsed (α : Type) := Except (Option Errno) α

def e2big : Errno := .other 7

structure Span where
  (first last : Nat)
  deriving DecidableEq, Repr

def Span.bytes (data : List UInt8) (span : Span) : List UInt8 :=
  (data.drop span.first).take (span.last - span.first)

structure Observed where
  (obuCount tileGroupCount : Nat)
  (sequenceSeen reducedStillPictureHeaderKnown reducedStillPictureHeader frameHeaderSeen : Bool)
  (frameObuSeen completeFrame : Bool)
  deriving DecidableEq, Repr

structure State extends Observed where
  payloads : List Span
  deriving DecidableEq, Repr

/-- The state after `memset`. -/
def State.empty : State :=
  { obuCount := 0
    tileGroupCount := 0
    sequenceSeen := false
    reducedStillPictureHeaderKnown := false
    reducedStillPictureHeader := false
    frameHeaderSeen := false
    frameObuSeen := false
    completeFrame := false
    payloads := [] }

structure Obu where
  (header type extension : UInt8)
  (headerSize payloadOffset payloadSize : Nat)
  deriving DecidableEq, Repr

def addSize (left right : Nat) : Parsed Nat :=
  if sizeMax - right < left then .error (some .eoverflow) else .ok (left + right)

/-- `read_leb128` on all the bytes that there are: the bytes consumed, and the value. Eight digits
are never above `SIZE_MAX`. -/
def readLeb128 (data : List UInt8) : Parsed (Nat × Nat) :=
  match Leb128.read 8 0 0 data with
  | some r => .ok r
  | none => .error (some .eproto)

/-- `readLeb128` with its reads. -/
def readLeb128Read (memory : Nat → Option UInt8) (size : Nat) : Option (Parsed (Nat × Nat)) :=
  (Leb128.readAt memory size 8 0 0).map (·.elim (.error (some .eproto)) .ok)

/-- `leb128_size`; a `size_t` has ten digits at most. -/
def leb128Size (value : Nat) : Nat := Leb128.size 10 value

/-- `write_leb128`: the bytes that are written. -/
def writeLeb128 (value : Nat) : List UInt8 := Leb128.encode 10 value

def typeOf (header : UInt8) : UInt8 := (header >>> 3) &&& 0x0f
def extensionOf (header : UInt8) : UInt8 := (header >>> 2) &&& 1

/-- The size field of `parse_obu`, or what stands for it: where the payload starts, and its size. -/
def payloadField (data : List UInt8) (headerSize : Nat) (hasSize annexB : Bool) :
    Parsed (Nat × Nat) := do
  if hasSize then
    let (fieldSize, payloadSize) ← readLeb128 (data.drop headerSize)
    if data.length - headerSize < fieldSize ∨
        payloadSize ≠ data.length - headerSize - fieldSize then .error (some .eproto)
    else return (headerSize + fieldSize, payloadSize)
  else if !annexB then .error (some .enotsup)
  else return (headerSize, data.length - headerSize)

/-- `parse_obu` on all the bytes of the unit. -/
def parseObu (data : List UInt8) (absoluteOffset : Nat) (annexB : Bool) : Parsed Obu := do
  match data with
  | [] => .error (some .einval)
  | header :: rest =>
    if header &&& 0x81 ≠ 0 then .error (some .eproto)
    else
      let extension := extensionOf header
      if extension ≠ 0 ∧ rest = [] then .error (some .eproto)
      else if extension ≠ 0 ∧ rest.head? ≠ some 0 then .error (some .enotsup)
      else
        let headerSize := if extension ≠ 0 then 2 else 1
        let (cursor, payloadSize) ← payloadField data headerSize (header &&& 2 != 0) annexB
        if sizeMax - cursor < absoluteOffset then .error (some .eoverflow)
        else
          return { header := header
                   type := typeOf header
                   extension := extension
                   headerSize := headerSize
                   payloadOffset := absoluteOffset + cursor
                   payloadSize := payloadSize }

/-- `read_payload_bit` at an offset. -/
def payloadBit (payload : List UInt8) (offset : Nat) : Parsed Nat :=
  if 8 * payload.length ≤ offset then .error (some .eproto)
  else .ok (((payload.getD (offset / 8) 0).toNat >>> (7 - offset % 8)) % 2)

section
variable (picture : Picture)
def checkSequencePrefix (s : Observed) (payload : List UInt8) :
    Parsed Observed := do
  let p2 ← payloadBit payload 0
  let p1 ← payloadBit payload 1
  let p0 ← payloadBit payload 2
  let stillPicture ← payloadBit payload 3
  let reduced ← payloadBit payload 4
  let profile := 4 * p2 + 2 * p1 + p0
  if profile ≠ picture.profile.toNat ∨ profile ≠ 0 then .error (some .enotsup)
  else if stillPicture ≠ picture.stillPicture.toNat ∨ (reduced ≠ 0 ∧ stillPicture = 0) then
    .error (some .eproto)
  else
    return { s with
      reducedStillPictureHeaderKnown := true
      reducedStillPictureHeader := decide (reduced ≠ 0) }

/-- The frame type and `show_frame` at the start of a frame header. -/
def framePrefix (reduced : Bool) (payload : List UInt8) : Parsed (Nat × Nat) := do
  if reduced then return (0, 1)
  else
    let showExisting ← payloadBit payload 0
    if showExisting ≠ 0 then .error (some .enotsup)
    else
      let t1 ← payloadBit payload 1
      let t0 ← payloadBit payload 2
      let showFrame ← payloadBit payload 3
      return (2 * t1 + t0, showFrame)

def checkFramePrefix (s : Observed) (payload : List UInt8) :
    Parsed Observed := do
  if !s.reducedStillPictureHeaderKnown && picture.stillPicture != 0 then .error (some .enotsup)
  else
    let reduced := s.reducedStillPictureHeaderKnown && s.reducedStillPictureHeader
    let (frameType, showFrame) ← framePrefix reduced payload
    if frameType ≠ picture.frameType.toNat ∨ showFrame ≠ picture.showFrame.toNat then
      .error (some .eproto)
    else
      return { s with
        reducedStillPictureHeaderKnown := true
        reducedStillPictureHeader := reduced }

def Obu.span (obu : Obu) : Span := ⟨obu.payloadOffset,obu.payloadOffset + obu.payloadSize⟩

/-- The `switch` of `observe_obu`, by `enum advc_av1_obu_type`. -/
def observeType (s : State) (obu : Obu) (payload : List UInt8) : Parsed State := do
  match obu.type.toNat with
  | 1 => -- SEQUENCE_HEADER
      if s.sequenceSeen || s.frameHeaderSeen || s.frameObuSeen then .error (some .enotsup)
      else
        let observed ← checkSequencePrefix picture s.toObserved payload
        return { s with toObserved := { observed with sequenceSeen := true } }
  | 2 => -- TEMPORAL_DELIMITER
      if obu.payloadSize ≠ 0 ∨ s.frameHeaderSeen ∨ s.frameObuSeen ∨ s.tileGroupCount ≠ 0 then
        .error (some .eproto)
      else return s
  | 3 => -- FRAME_HEADER
      if s.frameHeaderSeen ∨ s.frameObuSeen ∨ s.tileGroupCount ≠ 0 then .error none
      else
        let observed ← checkFramePrefix picture s.toObserved payload
        return { s with toObserved := { observed with frameHeaderSeen := true } }
  | 4 => -- TILE_GROUP
      if !s.frameHeaderSeen ∨ s.frameObuSeen ∨ maxTiles ≤ s.payloads.length then
        .error (some .enotsup)
      else
        return { s with
          payloads := s.payloads ++ [obu.span]
          tileGroupCount := s.tileGroupCount + 1
          completeFrame := true }
  | 6 => -- FRAME
      if s.frameHeaderSeen ∨ s.frameObuSeen ∨ s.tileGroupCount ≠ 0 then .error none
      else
        let observed ← checkFramePrefix picture s.toObserved payload
        return { toObserved := { observed with frameObuSeen := true, completeFrame := true }
                 payloads := [obu.span] }
  | 5 => -- METADATA
      if s.frameHeaderSeen ∨ s.frameObuSeen ∨ s.tileGroupCount ≠ 0 then .error (some .enotsup)
      else return s
  | 15 => return s -- PADDING
  | _ => .error (some .enotsup)

def observeObu (s : State) (obu : Obu) (payload : List UInt8) : Parsed State :=
  if maxObus ≤ s.obuCount then .error (some e2big)
  else observeType picture { s with obuCount := s.obuCount + 1 } obu payload

def finishParse (s : State) : Parsed Unit :=
  if !s.completeFrame || s.payloads.length == 0 ||
      (s.frameHeaderSeen && s.tileGroupCount == 0) then .error (some .enotsup)
  else .ok ()

structure Element where
  type : UInt8
  extension : Option UInt8
  payload : List UInt8
  deriving DecidableEq, Repr

def Obu.payload (obu : Obu) (data : List UInt8) : List UInt8 := obu.span.bytes data

def Obu.element (obu : Obu) (data start : List UInt8) : Element :=
  { type := obu.type
    extension := if obu.headerSize = 2 then start[1]? else none
    payload := obu.payload data }

/-- The loop of `parse_raw_obus`, with the OBUs it goes through. Every round consumes a byte. -/
def rawLoop (data : List UInt8) : Nat → Nat → State → Parsed (State × List Element)
  | fuel, offset, s =>
    if data.length ≤ offset then .ok (s, [])
    else
      match fuel with
      | 0 => .error none
      | fuel + 1 => do
          let rest := data.drop offset
          let header := rest.headD 0
          let headerSize := 1 + (extensionOf header).toNat
          if rest.length ≤ headerSize ∨ header &&& 2 = 0 then .error none
          else
            let (fieldSize, payloadSize) ← readLeb128 (rest.drop headerSize)
            let obuSize ← addSize headerSize fieldSize
            let obuSize ← addSize obuSize payloadSize
            if rest.length < obuSize then .error none
            else
              let obu ← parseObu (rest.take obuSize) offset false
              let s ← observeObu picture s obu (obu.payload data)
              let (s, elements) ← rawLoop data fuel (offset + obuSize) s
              return (s, obu.element data rest :: elements)

def parseRawObus (data : List UInt8) : Parsed (State × List Element) := do
  let (s, elements) ← rawLoop picture data data.length 0 State.empty
  finishParse s
  return (s, elements)

structure Normalized where
  state : State
  size : Nat
  elements : List Element
  writes : List (Write UInt8)

def obuWrites (outSize : Nat) (obu : Obu) (start payload : List UInt8) : List (Write UInt8) :=
  [⟨outSize,[obu.header ||| 2]⟩] ++
    (if obu.headerSize = 2 then [⟨outSize + 1,[start.getD 1 0]⟩] else []) ++
    [⟨outSize + obu.headerSize,writeLeb128 obu.payloadSize⟩,
      ⟨outSize + obu.headerSize + leb128Size obu.payloadSize,payload⟩]

def normalizedObuSize (obu : Obu) : Parsed Nat := do
  let size ← addSize obu.headerSize (leb128Size obu.payloadSize)
  addSize size obu.payloadSize

/-- `ADVC_MAX_INPUT_BYTES - size`, as a `size_t`. -/
def inputBytesMinus (size : Nat) : Nat :=
  (maxInputBytes.toNat + (sizeMax + 1) - size) % (sizeMax + 1)

/-- The loop of `parse_annex_b`. `output` is the capacity of the allocation in the second pass. -/
def annexLoop (data : List UInt8) (output : Option Nat) :
    Nat → Nat → Nat → State → Parsed Normalized
  | fuel, cursor, outSize, s =>
    if data.length ≤ cursor then .ok ⟨s,outSize,[],[]⟩
    else
      match fuel with
      | 0 => .error none
      | fuel + 1 => do
          let rest := data.drop cursor
          let (lengthField, obuSize) ← readLeb128 rest
          if rest.length < lengthField ∨ obuSize = 0 ∨ rest.length - lengthField < obuSize then
            .error none
          else
            let cursor := cursor + lengthField
            let start := data.drop cursor
            let obu ← parseObu (start.take obuSize) cursor true
            let s ← observeObu picture s obu (obu.payload data)
            let size ← (normalizedObuSize obu).mapError fun _ => some e2big
            if inputBytesMinus size < outSize then .error (some e2big)
            else if output.any fun capacity =>
                decide (capacity < outSize) || decide (capacity - outSize < size) then
              .error (some .eoverflow)
            else
              let r ← annexLoop data output fuel (cursor + obuSize) (outSize + size) s
              return { r with
                elements := obu.element data start :: r.elements
                writes := (if output.isSome then obuWrites outSize obu start (obu.payload data)
                  else []) ++ r.writes }

/-- `parse_annex_b`. Both outer sizes must cover all that is left, so that the frame unit ends with
the data. -/
def parseAnnexB (data : List UInt8) (output : Option Nat) :
    Parsed Normalized := do
  match Leb128.read 8 0 0 data with
  | none => .error (some .eproto)
  | some (tuField, tuSize) =>
    if tuSize ≠ data.length - tuField then .error (some .eproto)
    else
      match Leb128.read 8 0 0 (data.drop tuField) with
      | none => .error (some .eproto)
      | some (fuField, fuSize) =>
        if data.length - tuField < fuField ∨ fuSize ≠ data.length - tuField - fuField then
          .error (some .eproto)
        else
          let r ← annexLoop picture data output data.length (tuField + fuField) 0 State.empty
          finishParse r.state
          return r

def validatePicture (expectedWidth expectedHeight : UInt32) :
    Except Errno Unit :=
  if expectedWidth = 0 ∨ expectedHeight = 0 ∨ expectedWidth > 65535 ∨ expectedHeight > 65535 then
    .error .einval
  else if picture.profile ≠ 0 ∨ picture.bitDepthIdx ≠ 0 ∨ picture.monoChrome ≠ 0 ∨
      picture.subsamplingX ≠ 1 ∨ picture.subsamplingY ≠ 1 ∨ picture.largeScaleTile ≠ 0 ∨
      picture.anchorFramesNum ≠ 0 then .error .enotsup
  else if picture.frameWidthMinus1.toUInt32 + 1 ≠ expectedWidth ∨
      picture.frameHeightMinus1.toUInt32 + 1 ≠ expectedHeight then .error .einval
  else if picture.tileCols = 0 ∨ picture.tileRows = 0 ∨
      maxTiles < picture.tileCols.toNat * picture.tileRows.toNat then .error .enotsup
  else .ok ()

def Tile.first (tile : Tile) : Nat := tile.sliceDataOffset.toNat
def Tile.last (tile : Tile) : Nat := tile.sliceDataOffset.toNat + tile.sliceDataSize.toNat
def Tile.index (tile : Tile) : Nat :=
  tile.tileRow.toNat * picture.tileCols.toNat + tile.tileColumn.toNat

/-- One round of the loop of `validate_tiles`, after the tiles `before`. -/
def validateTile (s : State) (dataSize : Nat) (before : List Tile) (tile : Tile) :
    Except Errno Unit :=
  if tile.sliceDataFlag ≠ 0 ∨ tile.sliceDataSize = 0 ∨
      picture.tileRows.toNat ≤ tile.tileRow.toNat ∨ picture.tileCols.toNat ≤ tile.tileColumn.toNat ∨
      dataSize < tile.first ∨ dataSize - tile.first < tile.sliceDataSize.toNat then .error .enotsup
  else if before.any fun other => other.index picture == tile.index picture then .error .eproto
  else if !(s.payloads.any fun span =>
      decide (span.first ≤ tile.first) && decide (tile.last ≤ span.last)) then .error .enotsup
  else if before.any fun other =>
      decide (tile.first < other.last) && decide (other.first < tile.last) then .error .eproto
  else .ok ()

def validateTilesFrom (s : State) (dataSize : Nat) :
    List Tile → List Tile → Except Errno Unit
  | _, [] => .ok ()
  | before, tile :: rest => do
      validateTile picture s dataSize before tile
      validateTilesFrom s dataSize (before ++ [tile]) rest

def validateTiles (s : State) (dataSize : Nat) (tiles : List Tile) : Except Errno Unit :=
  if tiles.length ≠ picture.tileCols.toNat * picture.tileRows.toNat ∨ tiles.length = 0 then
    .error .enotsup
  else validateTilesFrom picture s dataSize [] tiles

inductive InputFormat where
  | rawObu | annexB
  deriving DecidableEq, Repr

structure Info where
  inputFormat : InputFormat
  frameType : UInt8
  (keyFrame containsSequenceHeader : Bool)
  obuCount : Nat
  deriving DecidableEq, Repr

structure AccessUnit where
  bytes : List UInt8
  info : Info
  allocated : Nat
  writes : List (Write UInt8)

def makeInfo (format : InputFormat) (s : State) : Info :=
  { inputFormat := format
    frameType := picture.frameType.toUInt8
    keyFrame := picture.frameType.toUInt8 == 0
    containsSequenceHeader := s.sequenceSeen
    obuCount := s.obuCount }

end

def bothFailed (raw annex : Option Errno) : Option Errno :=
  if raw = some .enotsup ∨ annex = some .enotsup then some .enotsup
  else if raw ≠ none then raw
  else annex

/-- The content of an allocation, which `malloc` does not clear. -/
def allocation (content : Nat → UInt8) (size : Nat) : List UInt8 := (List.range size).map content

/-- `advc_av1_build_access_unit`. `malloc` fails, or returns memory with some content. An error
`none` is a failure with `errno` cleared. -/
def buildAccessUnit (malloc : Option (Nat → UInt8)) (picture : Picture) (tiles : List Tile)
    (sliceData : List UInt8) (expectedWidth expectedHeight : UInt32) : Parsed AccessUnit := do
  if sliceData.length = 0 then .error (some .einval)
  else if maxInputBytes.toNat < sliceData.length then .error (some e2big)
  else
    (validatePicture picture expectedWidth expectedHeight).mapError some
    match parseRawObus picture sliceData, parseAnnexB picture sliceData none with
    | .ok _, .ok _ => .error (some .eproto)
    | .error raw, .error annex => .error (bothFailed raw annex)
    | .ok (s, _), .error _ =>
      (validateTiles picture s sliceData.length tiles).mapError some
      match malloc with
      | none => .error (some .enomem)
      | some content =>
        let writes : List (Write UInt8) := [⟨0,sliceData⟩]
        return { bytes := store (allocation content sliceData.length) writes
                 info := makeInfo picture .rawObu s
                 allocated := sliceData.length
                 writes := writes }
    | .error _, .ok measured =>
      (validateTiles picture measured.state sliceData.length tiles).mapError some
      match malloc with
      | none => .error (some .enomem)
      | some content =>
        let r ← parseAnnexB picture sliceData (some measured.size)
        return { bytes := (store (allocation content measured.size) r.writes).take r.size
                 info := makeInfo picture .annexB r.state
                 allocated := measured.size
                 writes := r.writes }
end LinDeX.Av1
