import ShaderInterface.Proofs.BindingTranslation
import ShaderInterface.Proofs.SizeAgreement
import ShaderInterface.Proofs.StageSets

/-! The record arrays of a reflection against the declarations they come from: which are kept, in
which order, and what each record says of its own declaration. -/
namespace ShaderInterface

namespace Reflection

structure DescribesInput (reflection : Reflection) (resource : Declared.Resource)
    (input : VertexInput) : Prop where
  name : reflection.name input.name = resource.name
  size : input.size = resource.size

/-- A bound resource says what its declaration says: its descriptor holds what the declared kind
does, its image has the declared shape and the declared texel, and the stage at hand is the only one
that uses it. Reading takes the first bit of the access, writing the second. -/
structure DescribesResource (reflection : Reflection) (stage : Stage)
    (resource : Declared.Resource) (bound : BoundResource) : Prop where
  name : reflection.name bound.name = resource.name
  descriptor : bound.descriptor.content? = resource.kind.content?
  set : bound.set = resource.set
  register : bound.register = resource.binding
  size : bound.size = resource.size
  usedStages : bound.usedStages.bits.toNat = 2 ^ stage.place
  dimension : bound.dimension.shape? = resource.dimension.shape?
  access : bound.access.bits.toNat =
    (if resource.access.reads then 1 else 0) + (if resource.access.writes then 2 else 0)
  format : bound.format.texel? = resource.format.texel?

/-- A block variable says what its declaration says; its parent is the number of bindable resources
declared before the declared parent. -/
structure DescribesMember (reflection : Reflection) (resources : List Declared.Resource)
    (member : Declared.Member) (kept : BlockVariable) : Prop where
  name : reflection.name kept.name = member.name
  offset : kept.offset = member.offset
  size : kept.size = member.size
  parent : kept.parent = Declared.bindablesBefore resources member.parent

/-- The records of a reflection are those that a listing asks for at a stage, each in the order of
its declaration: attributes, bindable resources, and the members of those. -/
structure Represents (reflection : Reflection) (stage : Stage) (listing : Declared.Listing) :
    Prop where
  inputs : List.Forall₂ reflection.DescribesInput (listing.attributes stage)
    reflection.vertexInputs
  resources : List.Forall₂ (reflection.DescribesResource stage) listing.bindables
    reflection.resources
  members : List.Forall₂ (reflection.DescribesMember listing.resources) listing.blockMembers
    reflection.members

end Reflection

/-- A declaration leaves no choice of its record but the place of its name. -/
theorem Reflection.DescribesResource.unique {reflection : Reflection} {stage : Stage}
    {resource : Declared.Resource} {one other : BoundResource}
    (h : reflection.DescribesResource stage resource one)
    (h' : reflection.DescribesResource stage resource other) (name : one.name = other.name) :
    one = other := by
  have descriptor := DescriptorType.eq_of_content?_eq (h.descriptor.trans h'.descriptor.symm)
  have dimension := TextureDimension.eq_of_shape?_eq (h.dimension.trans h'.dimension.symm)
  have format := PixelFormat.eq_of_texel?_eq (h.format.trans h'.format.symm)
  have access := UInt32.toNat_inj.mp (h.access.trans h'.access.symm)
  have stages := UInt32.toNat_inj.mp (h.usedStages.trans h'.usedStages.symm)
  have set := h.set.trans h'.set.symm
  have register := h.register.trans h'.register.symm
  have size := h.size.trans h'.size.symm
  obtain ⟨_, _, _, _, ⟨_⟩, _, ⟨_⟩, _, _⟩ := one
  obtain ⟨_, _, _, _, ⟨_⟩, _, ⟨_⟩, _, _⟩ := other
  simp_all

theorem Reflection.DescribesResource.descriptor_eq {reflection : Reflection} {stage : Stage}
    {resource : Declared.Resource} {bound : BoundResource}
    (h : reflection.DescribesResource stage resource bound) :
    bound.descriptor = resource.kind.descriptor :=
  DescriptorType.eq_of_content?_eq (h.descriptor.trans resource.kind.content?_descriptor.symm)

theorem Reflection.describesResource_bind {reflection : Reflection} (stage : Stage)
    {resource : Declared.Resource} {ref : NameRef} (name : reflection.name ref = resource.name) :
    reflection.DescribesResource stage resource (Packing.bind stage resource ref) where
  name := name
  descriptor := resource.kind.content?_descriptor
  set := rfl
  register := rfl
  size := rfl
  usedStages := StageSet.toNat_bits_single stage
  dimension := resource.dimension.shape?_texture
  access := resource.access.bits_directions
  format := resource.format.texel?_pixel

theorem Declared.Resource.content?_ne_none {resource : Declared.Resource}
    (h : resource.isBindable) : resource.kind.content? ≠ none := by
  rw [isBindable, Bool.and_eq_true, Bool.and_eq_true, bne_iff_ne, bne_iff_ne] at h
  obtain ⟨⟨_, not_input⟩, not_output⟩ := h
  cases kind : resource.kind
  case stageInput => exact absurd kind not_input
  case stageOutput => exact absurd kind not_output
  all_goals exact Option.some_ne_none _

theorem Reflection.Represents.descriptor_ne_undefined {reflection : Reflection} {stage : Stage}
    {listing : Declared.Listing} (h : reflection.Represents stage listing) {bound : BoundResource}
    (found : bound ∈ reflection.resources) : bound.descriptor ≠ .undefined := by
  obtain ⟨i, hi, rfl⟩ := List.getElem_of_mem found
  have hb : i < listing.bindables.length := h.resources.length_eq ▸ hi
  have same := (h.resources.get hb hi).descriptor
  rw [List.get_eq_getElem, List.get_eq_getElem] at same
  intro undefined
  rw [undefined] at same
  exact Declared.Resource.content?_ne_none (List.of_mem_filter (List.getElem_mem hb)) same.symm

namespace Compaction

theorem assemble_represents {stage : Stage} {listing : Declared.Listing}
    (workgroupSize : WorkgroupSize) (controlPoints : UInt32)
    (fits : (Packing.layout stage listing).pool.size < UInt32.size) :
    (assemble stage (Packing.layout stage listing) workgroupSize controlPoints).Represents stage
      listing where
  inputs := by
    refine ((Packing.layout_holds_inputs stage listing).forall₂_zipWith fits).imp ?_
    rintro resource input ⟨ref, rfl, name⟩
    exact ⟨name, rfl⟩
  resources := by
    refine ((Packing.layout_holds_resources stage listing).forall₂_zipWith fits).imp ?_
    rintro resource bound ⟨ref, rfl, name⟩
    exact Reflection.describesResource_bind stage name
  members := by
    refine ((Packing.layout_holds_members stage listing).forall₂_zipWith fits).imp ?_
    rintro member kept ⟨ref, rfl, name⟩
    exact ⟨name, rfl, rfl, rfl⟩

/-- A reflection holds exactly the records that its listing asks for, and every bound resource
takes a descriptor. -/
theorem compact_records {stage : Stage} {reader : Reader} {reflection : Reflection}
    (done : (compact stage reader).outcome = .ok reflection) :
    ∃ listing, reader.listing = .ok listing ∧ reflection.Represents stage listing ∧
      ∀ bound ∈ reflection.resources, bound.descriptor ≠ .undefined := by
  obtain ⟨listing, listed, fits, workgroupSize, controlPoints, _, _, rfl⟩ :=
    compact_eq_ok_iff.mp done
  have represents := assemble_represents workgroupSize controlPoints fits
  exact ⟨listing, listed, represents, fun bound found => represents.descriptor_ne_undefined found⟩

/-- A fragment shader's listing: it writes to the layers of a storage image, reads a cube through
its sampler, and has push constants; the rest of it is dropped. -/
def imageListing : Declared.Listing :=
  { entryPoint := "main"
    resources :=
      [⟨"uv", ⟨3, 0, 0⟩, .stageInput, .undefined, .readOnly, .unknown, 0, 1, 8, true⟩,
       ⟨"trail", ⟨4, 0, 0⟩, .storageTexture, .texture2DArray, .writeOnly, .rgba16f, 1, 2, 4, true⟩,
       ⟨"spare", ⟨5, 0, 0⟩, .uniformBuffer, .undefined, .readOnly, .unknown, 1, 3, 1, false⟩,
       ⟨"glow", ⟨6, 0, 0⟩, .combinedSampler, .textureCube, .readOnly, .unknown, 0, 5, 1, true⟩,
       ⟨"tint", ⟨7, 0, 0⟩, .pushConstant, .undefined, .readOnly, .unknown, 0, 0, 32, true⟩]
    members :=
      [⟨"hue", 8, ⟨7, 0, 0⟩, 4, true, 16, 12⟩, ⟨"lost", 8, ⟨5, 0, 0⟩, 2, true, 0, 4⟩,
       ⟨"stray", 8, ⟨0, 0, 0⟩, 9, true, 0, 4⟩] }

def imageReader : Reader :=
  { entryPoint := .ok imageListing.entryPoint
    resources := .ok imageListing.resources
    members := .ok imageListing.members
    workgroupSize := .ok ⟨8, 8, 1⟩
    controlPoints := .ok 3 }

def imageReflection : Reflection :=
  assemble .fragment (Packing.layout .fragment imageListing) .zero 0

theorem compact_images : (compact .fragment imageReader).outcome = .ok imageReflection :=
  compact_eq_ok_iff.mpr ⟨imageListing, rfl, by decide, .zero, 0, rfl, rfl, rfl⟩

theorem compact_records_sample :
    (compact .fragment imageReader).outcome = .ok imageReflection ∧
      imageReflection.Represents .fragment imageListing ∧
      imageReflection.vertexInputs = [] ∧
      imageReflection.resources =
        [⟨.rwTexture, 1, 2, 4, ⟨0x10⟩, .dim2DArray, ⟨0x02⟩, .r16g16b16a16Sfloat, ⟨5, 5⟩⟩,
         ⟨.combinedImageSampler, 0, 5, 1, ⟨0x10⟩, .dimCube, ⟨0x01⟩, .undefined, ⟨11, 4⟩⟩,
         ⟨.rootConstant, 0, 0, 32, ⟨0x10⟩, .undefined, ⟨0x01⟩, .undefined, ⟨16, 4⟩⟩] ∧
      imageReflection.members = [⟨16, 12, 2, ⟨21, 3⟩⟩] ∧
      (compact .vertex sampleReader).outcome = .ok sampleReflection ∧
      sampleReflection.Represents .vertex sampleListing ∧
      ∀ bound ∈ sampleReflection.resources, bound.descriptor ≠ .undefined := by
  obtain ⟨listing, listed, represents, -⟩ := compact_records compact_images
  cases listed
  obtain ⟨listing, listed, alike⟩ := compact_records compact_sample
  cases listed
  exact ⟨compact_images, represents, rfl, by decide, by decide, compact_sample, alike⟩

end Compaction

end ShaderInterface
