import ShaderInterface.Proofs.DescriptorLookup
import ShaderInterface.Proofs.ListingInvariant

/-! What the ids of a reading say. They come from the outline and everything else from the resolver,
so each way of tracing a variable back has to bring the two together: the variable behind a resource
has the storage class of its kind and lies where the resource lies, and the types are those that the
outline has for it, down to the members. -/
namespace ShaderInterface

/-- The storage classes of the variables that a kind of resource stands for. -/
def Declared.Kind.storageClasses : Kind → List Spirv.StorageClass
  | stageInput => [.input]
  | stageOutput => [.output]
  | pushConstant => [.pushConstant]
  | _ => [.uniformConstant, .uniform, .storageBuffer]

def Declared.Kind.isDescriptor : Kind → Bool
  | stageInput | stageOutput | pushConstant => false
  | _ => true

namespace Spirv

namespace Outline

variable {outline : Outline} {entry : EntryPoint} {declared : Global}

theorem bindingSlot_of_descriptor? {set binding : UInt32} {category : TypeCategory}
    (h : outline.descriptor? set binding category = some declared) :
    outline.bindingSlot declared.id = (set, binding) := by
  have takes := (descriptor?_eq_some_iff.mp h).takes
  rw [bindingSlot, takes.set, takes.binding]

theorem location_of_interface? {storage : StorageClass} {location component : UInt32}
    {name : Option String}
    (h : outline.interface? entry storage location component name = some declared) :
    declared.id ∈ entry.interface ∧
      outline.placement? declared.id .location = some location := by
  have kept := List.find?_some h
  simp only [Bool.and_eq_true, beq_iff_eq, List.contains_iff_mem] at kept
  obtain ⟨⟨⟨⟨_, listed⟩, placed⟩, _⟩, _⟩ := kept
  exact ⟨listed, placed⟩

end Outline

namespace Listing

/-- A resource says of a variable what the outline says of it; what a descriptor's decorations leave
out reads as zero. -/
structure Coherent (outline : Outline) (entry : EntryPoint) (declared : Global)
    (resource : Declared.Resource) : Prop where
  known : declared ∈ outline.globals
  id : resource.ids.id = declared.id
  storage : declared.storage ∈ resource.kind.storageClasses
  slot : resource.kind.isDescriptor = true →
    (outline.placement? declared.id .set).getD 0 = resource.set ∧
      (outline.placement? declared.id .binding).getD 0 = resource.binding
  location : resource.kind = .stageInput ∨ resource.kind = .stageOutput →
    declared.id ∈ entry.interface ∧
      outline.placement? declared.id .location = some resource.binding
  typeId : resource.ids.typeId = outline.pointee declared.pointerType
  baseId : resource.ids.baseId = outline.base (outline.pointee declared.pointerType)

section Coherence

variable {outline : Outline} {entry : EntryPoint} {declared : Global} {used : Bool}
  {resolved : Resolved} {resource : Declared.Resource}

private theorem storage_of_fits {kind : Declared.Kind} (fits : Fits resolved declared)
    (own : declaredKind? resolved = some kind) : declared.storage ∈ kind.storageClasses := by
  cases resolved with
  | descriptor _ _ _ binding =>
    cases own
    cases binding <;> exact Outline.isDescriptor_iff.mp fits
  | pushConstant | input | output =>
    cases own
    exact List.mem_singleton.mpr fits
  | specConstant => cases own

private theorem slot_of_resource? (traced : findGlobal? outline entry resolved = some declared)
    (declares : resource? outline (some declared) used resolved = some resource)
    (descriptor : resource.kind.isDescriptor = true) :
    outline.bindingSlot declared.id = (resource.set, resource.binding) := by
  cases resolved with
  | descriptor =>
    cases declares
    exact Outline.bindingSlot_of_descriptor? traced
  | pushConstant | input | output =>
    cases declares
    cases descriptor
  | specConstant => cases declares

private theorem location_of_resource?
    (traced : findGlobal? outline entry resolved = some declared)
    (declares : resource? outline (some declared) used resolved = some resource)
    (stage : resource.kind = .stageInput ∨ resource.kind = .stageOutput) :
    declared.id ∈ entry.interface ∧
      outline.placement? declared.id .location = some resource.binding := by
  cases resolved with
  | descriptor _ _ _ binding =>
    cases declares
    cases binding <;> simp [kindOf] at stage
  | pushConstant =>
    cases declares
    simp at stage
  | input | output =>
    cases declares
    exact Outline.location_of_interface? traced
  | specConstant => cases declares

theorem coherent_of_resource? (traced : findGlobal? outline entry resolved = some declared)
    (declares : resource? outline (some declared) used resolved = some resource) :
    Coherent outline entry declared resource where
  known := mem_of_findGlobal? traced
  id := by rw [resource?_ids declares]; rfl
  storage := storage_of_fits (fits_of_findGlobal? traced) (resource?_kind declares)
  slot descriptor := Prod.mk.inj (slot_of_resource? traced declares descriptor)
  location := location_of_resource? traced declares
  typeId := by rw [resource?_ids declares]; rfl
  baseId := by rw [resource?_ids declares]; rfl

private theorem typeId_of_getElem?_membersOf {position index : Nat} {type : Ty}
    {member : Declared.Member}
    (here : (membersOf outline position resource type)[index]? = some member) :
    member.typeId = (outline.members resource.ids.baseId)[index]?.getD 0 := by
  rw [membersOf, List.getElem?_map, List.getElem?_zipIdx, Option.map_map,
    Option.map_eq_some_iff] at here
  obtain ⟨_, _, rfl⟩ := here
  simp

/-- The members under a position have, one by one, the types of the struct behind the resource
there, and none past its end. -/
theorem typeId_of_list_members {usedKeys : List InterfaceKey} {found : List Resolved}
    {position index : Nat} {member : Declared.Member}
    (here : (list outline entry usedKeys found).resources[position]? = some resource)
    (under : ((list outline entry usedKeys found).members.filter
      (·.parent == position))[index]? = some member) :
    member.typeId = (outline.members resource.ids.baseId)[index]?.getD 0 := by
  obtain ⟨resources, members⟩ := list_rows outline entry usedKeys found
  rw [resources, List.getElem?_map, Option.map_eq_some_iff] at here
  obtain ⟨⟨resolved, _⟩, here, rfl⟩ := here
  rw [members, filter_allMembers here, rowMembers] at under
  split at under
  · exact typeId_of_getElem?_membersOf under
  · cases under

end Coherence

end Listing

/-- The ids of a reading agree with the outline of its module, whatever the resolver says. Each
resource is declared by a resolved variable, and where that is traced back, to the variable that the
ids speak of. -/
theorem read_coherent {resolver : Resolver} {config : Config} {words : List UInt32}
    {reading : Reading} (h : (readWith resolver config words).outcome = .ok reading) :
    ∃ outline declared entry, scan words = .ok outline ∧
      chooseEntry config outline = .ok declared ∧
        resolveChosen resolver config words declared.name = .ok entry ∧
          ∀ (position : Nat) (resource : Declared.Resource),
            reading.resources[position]? = some resource →
            (∃ resolved ∈ entry.declared,
              Listing.resource? outline (Listing.findGlobal? outline declared resolved)
                resource.used resolved = some resource) ∧
            (∀ resolved ∈ entry.declared,
              Listing.resource? outline (Listing.findGlobal? outline declared resolved)
                  resource.used resolved = some resource →
                ∀ standing, Listing.findGlobal? outline declared resolved = some standing →
                  Listing.Coherent outline declared standing resource) ∧
            ∀ (index : Nat) (member : Declared.Member),
              (reading.members.filter (·.parent == position))[index]? = some member →
                member.typeId = (outline.members resource.ids.baseId)[index]?.getD 0 := by
  obtain ⟨outline, declared, entry, scanned, chosen, resolved, read⟩ := readWith_eq_ok_iff.mp h
  refine ⟨outline, declared, entry, scanned, chosen, resolved, fun position resource here => ?_⟩
  cases read
  refine ⟨?_, ?_, fun index member under => Listing.typeId_of_list_members here under⟩
  · obtain ⟨resolved, known, declares, _⟩ :=
      Listing.exists_of_mem_list (List.mem_of_getElem? here)
    exact ⟨resolved, known, declares⟩
  · intro resolved _ declares standing traced
    exact Listing.coherent_of_resource? traced (traced ▸ declares)

/-- The words of a module with a fragment shader "main". It refers to the input 30 at location 3,
the output 31, the uniform array 32 of two blocks at binding 2 of set 1 and the push constants 34,
and leaves out the unnamed uniform block 33 at binding 4, which has no set. -/
def material : List UInt32 :=
  [119734787, 66304, 0, 60, 0, 131089, 1, 196622, 0, 1, 458767, 4, 1, 1852399981, 0, 30, 31,
   196624, 1, 7, 196613, 30, 30325, 262149, 31, 1869377379, 114, 327685, 10, 1702125901,
   1818323314, 0, 327685, 32, 1702125933, 1818323314, 0, 262149, 34, 1752397168, 0, 327686, 10, 0,
   1953393012, 0, 327686, 10, 1, 1852399975, 0, 327686, 12, 0, 1701080681, 120, 262215, 30, 30, 3,
   262215, 31, 30, 0, 196679, 10, 2, 327752, 10, 0, 35, 0, 327752, 10, 1, 35, 16, 196679, 11, 2,
   327752, 11, 0, 35, 0, 196679, 12, 2, 327752, 12, 0, 35, 0, 262215, 13, 6, 32, 262215, 32, 34, 1,
   262215, 32, 33, 2, 262215, 33, 33, 4, 131091, 2, 196641, 3, 2, 196630, 4, 32, 262167, 5, 4, 4,
   262165, 6, 32, 0, 262187, 6, 15, 2, 262174, 10, 5, 4, 196638, 11, 4, 196638, 12, 6, 262172, 13,
   10, 15, 262176, 20, 1, 5, 262176, 21, 3, 5, 262176, 22, 2, 13, 262176, 23, 2, 11, 262176, 24, 9,
   12, 262203, 20, 30, 1, 262203, 21, 31, 3, 262203, 23, 33, 2, 262203, 22, 32, 2, 262203, 24, 34,
   9, 327734, 2, 1, 0, 3, 131320, 50, 262205, 5, 51, 30, 262205, 13, 52, 32, 262205, 12, 53, 34,
   196670, 31, 51, 65789, 65592]

def materialReading : Reading :=
  ⟨"main",
   [⟨"uv", ⟨30, 5, 5⟩, .stageInput, .undefined, .readWrite, .unknown, 0, 3, 16, true⟩,
    ⟨"color", ⟨31, 5, 5⟩, .stageOutput, .undefined, .readWrite, .unknown, 0, 0, 16, true⟩,
    ⟨"", ⟨33, 11, 11⟩, .uniformBuffer, .undefined, .readWrite, .unknown, 0, 4, 1, false⟩,
    ⟨"material", ⟨32, 13, 10⟩, .uniformBuffer, .undefined, .readWrite, .unknown, 1, 2, 2, true⟩,
    ⟨"push", ⟨34, 12, 12⟩, .pushConstant, .undefined, .readWrite, .unknown, 0, 0, 4, true⟩],
   [⟨"", 4, ⟨33, 11, 11⟩, 2, false, 0, 4⟩, ⟨"tint", 5, ⟨32, 13, 10⟩, 3, true, 0, 16⟩,
    ⟨"gain", 4, ⟨32, 13, 10⟩, 3, true, 16, 4⟩, ⟨"index", 6, ⟨34, 12, 12⟩, 4, true, 0, 4⟩],
   .zero, 0⟩

theorem readWith_material :
    (readWith resolveModule .standard material).outcome = .ok materialReading := by
  decide +kernel

def materialBlock : Declared.Resource :=
  ⟨"material", ⟨32, 13, 10⟩, .uniformBuffer, .undefined, .readWrite, .unknown, 1, 2, 2, true⟩

theorem read_coherent_material :
    (readWith resolveModule .standard material).outcome = .ok materialReading ∧
      materialReading.resources[3]? = some materialBlock ∧
        ∃ outline declared standing, scan material = .ok outline ∧
          chooseEntry .standard outline = .ok declared ∧
            Listing.Coherent outline declared standing materialBlock ∧
              ∀ (index : Nat) (member : Declared.Member),
                (materialReading.members.filter (·.parent == 3))[index]? = some member →
                  member.typeId = (outline.members 10)[index]?.getD 0 := by
  obtain ⟨outline, declared, _, scanned, chosen, _, coherent⟩ := read_coherent readWith_material
  have block : materialReading.resources[3]? = some materialBlock := rfl
  obtain ⟨⟨resolved, known, declares⟩, each, members⟩ := coherent 3 materialBlock block
  refine ⟨readWith_material, block, outline, declared, ?_⟩
  cases traced : Listing.findGlobal? outline declared resolved with
  | none =>
    have ids := Listing.resource?_ids declares
    rw [traced] at ids
    have unknown : (32 : UInt32) = 0 := congrArg Declared.Ids.id ids
    exact absurd unknown (by decide)
  | some standing =>
    exact ⟨standing, scanned, chosen, each resolved known declares standing traced, members⟩

end Spirv

end ShaderInterface
