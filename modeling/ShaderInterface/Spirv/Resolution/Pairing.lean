import ShaderInterface.Spirv.Resolved

/-! Pairing separate images and samplers that share a slot. Each sampler takes the images of its
slot and count that no sampler before it has taken; together they count as combined image
samplers. -/
namespace ShaderInterface.Spirv.Resolution.Pairing

structure SamplerVar where
  name : Option String
  set : UInt32
  slot : UInt32
  count : UInt32
  deriving DecidableEq

structure ImageVar where
  name : Option String
  set : UInt32
  slot : UInt32
  image : SampledImage
  count : UInt32
  deriving DecidableEq

def sampler? : Resolved → Option SamplerVar
  | .descriptor name set slot .sampler .sampler count => some ⟨name, set, slot, count⟩
  | _ => none

def image? : Resolved → Option ImageVar
  | .descriptor name set slot .sampledImage (.sampledImage image) count =>
    some ⟨name, set, slot, image, count⟩
  | _ => none

def SamplerVar.alone (sampler : SamplerVar) : Resolved :=
  .descriptor sampler.name sampler.set sampler.slot .sampler .sampler sampler.count

def ImageVar.alone (image : ImageVar) : Resolved :=
  .descriptor image.name image.set image.slot .sampledImage (.sampledImage image.image) image.count

def ImageVar.combined (image : ImageVar) : Resolved :=
  .descriptor image.name image.set image.slot .combinedImageSampler
    (.combinedImageSampler image.image) image.count

/-- Whether a sampler takes an image. -/
def takes (sampler : SamplerVar) (image : ImageVar) : Bool :=
  sampler.set == image.set && sampler.slot == image.slot && sampler.count == image.count

/-- Pairs samplers in order with the images that are left; images without a sampler come last. -/
def pair : List SamplerVar → List ImageVar → List Resolved
  | [], images => images.map ImageVar.alone
  | sampler :: rest, images =>
    let (taken, left) := images.partition (takes sampler)
    let found := if taken.isEmpty then [sampler.alone] else taken.map ImageVar.combined
    found ++ pair rest left

/-- The variables with their samplers and images paired, behind all others. -/
def pairAll (found : List Resolved) : List Resolved :=
  let others := found.filter fun resolved =>
    (sampler? resolved).isNone && (image? resolved).isNone
  others ++ pair (found.filterMap sampler?) (found.filterMap image?)

end ShaderInterface.Spirv.Resolution.Pairing
