import LinDeX.Vaapi.Types

/-!
# Output policies

How a decoded dma-buf reaches the consumer: the modifier mode parsed from the environment and the
route that `advc_vaapi_surface_policy.c` selects for a descriptor.
-/
namespace LinDeX.Vaapi
open Dmabuf
inductive ModifierMode where
  | auto | linear | qcom
  deriving DecidableEq, Repr

def parseMode (value : String) : Option ModifierMode :=
  if value = "auto" then some .auto
  else if value = "linear" then some .linear
  else if value = "qcom" then some .qcom
  else none

/-- `advc_vaapi_modifier_policy_parse`; `none` is a refused value. -/
def modifierPolicyParse (primary legacy : Option String) : Option ModifierMode :=
  match primary.filter (· ≠ ""), legacy.filter (· ≠ "") with
  | some value, _ => parseMode value
  | none, some value => parseMode value
  | none, none => some .auto

structure ConsumerPolicy where
  (acceptsLinearNv12 acceptsQcomCompressedNv12 gpuRepackAvailable cpuCopyAllowed : Bool)
  deriving DecidableEq, Repr

inductive SurfaceRoute where
  | unsupported | directLinear | directQcom | gpuRepackLinear | cpuCopyLinear
  deriving DecidableEq, Repr
variable (d : Descriptor)
def exactNv12Planes : Bool :=
  d.planeCount == 2 && d.objectCount ≤ 2 && (d.width &&& 1) == 0 && (d.height &&& 1) == 0 &&
    (d.planes 0).pitch ≥ d.width && (d.planes 1).pitch ≥ d.width

def Descriptor.objectOf (p : Plane) : Object :=
  d.objects (Fin.ofNat 4 p.objectIndex.toNat)

def linearNv12Compatible : Bool :=
  let luma := d.planes 0
  let chroma := d.planes 1
  let rows := d.height.toUInt64
  let chromaRows := (d.height / 2).toUInt64
  let lumaEnd := luma.offset + luma.pitch.toUInt64 * rows
  let chromaEnd := chroma.offset + chroma.pitch.toUInt64 * chromaRows
  !(!exactNv12Planes d || luma.pitch.toUInt64 > 0xffffffffffffffff / rows ||
      chroma.pitch.toUInt64 > 0xffffffffffffffff / chromaRows) &&
    !(lumaEnd < luma.offset || chromaEnd < chroma.offset ||
      lumaEnd > (Descriptor.objectOf d luma).size ||
      chromaEnd > (Descriptor.objectOf d chroma).size) &&
    !(luma.objectIndex == chroma.objectIndex && chroma.offset < lumaEnd)

def qcomNv12Compatible : Bool :=
  exactNv12Planes d && d.objectCount == 1 && (d.planes 0).objectIndex == 0 &&
    (d.planes 1).objectIndex == 0

/-- `advc_vaapi_select_surface_route`; `valid` answers `advc_dmabuf_descriptor_validate`. -/
def selectSurfaceRoute (valid : Bool) (d : Descriptor) (consumer : ConsumerPolicy) :
    SurfaceRoute :=
  if !valid || d.drmFourcc != fourccNv12 then .unsupported
  else if d.drmModifier == 0 && linearNv12Compatible d && consumer.acceptsLinearNv12 then
    .directLinear
  else if d.drmModifier == qcomCompressed && qcomNv12Compatible d then
    if consumer.acceptsQcomCompressedNv12 then .directQcom
    else if consumer.acceptsLinearNv12 && consumer.gpuRepackAvailable then .gpuRepackLinear
    else if consumer.acceptsLinearNv12 && consumer.cpuCopyAllowed then .cpuCopyLinear
    else .unsupported
  else .unsupported
end LinDeX.Vaapi
