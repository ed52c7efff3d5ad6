import ShaderInterface.Proofs.ListingInvariant

/-! The numbers of a layout. Sizes and offsets are counted without a bound and listed as words, so
that what is listed is exact just where the count is below `2 ^ 32`. -/
namespace ShaderInterface

def Declared.Kind.hasByteSize : Kind → Bool
  | stageInput | stageOutput | pushConstant => true
  | _ => false

namespace Spirv

/-- The type whose size is listed with a resource. Of a stage input or output, the arrays do not
count. -/
def Resolved.measured? : Resolved → Option Ty
  | pushConstant _ type => some type
  | input _ _ _ type | output _ _ _ type => some type.stripArrays
  | descriptor .. | specConstant .. => none

namespace Listing

def countedLayout (resolved : Resolved) : List (Option Nat) :=
  resolved.measured?.toList.map Ty.byteSize? ++ (blockType? resolved).toList.flatMap fun type =>
    type.members.flatMap fun member => [member.offset, member.type.byteSize?]

def listedLayout (resource : Declared.Resource) (members : List Declared.Member) : List UInt32 :=
  (if resource.kind.hasByteSize then [resource.size] else []) ++
    members.flatMap fun member => [member.offset, member.size]

/-- Words in place of counts of which some may be missing: each is its count modulo `2 ^ 32`, so
that a zero stands for a missing count, for none, and for each multiple of `2 ^ 32`. -/
structure Narrows (counts : List (Option Nat)) (words : List UInt32) : Prop where
  modulo : words.map (·.toNat) = counts.map fun count => count.getD 0 % UInt32.size
  exact_iff : words.map (·.toNat) = counts.map (·.getD 0) ↔
    ∀ count ∈ counts, count.getD 0 < UInt32.size
  zero_iff : ∀ (index : Nat) (count : Option Nat) (word : UInt32), counts[index]? = some count →
    words[index]? = some word → (word = 0 ↔ UInt32.size ∣ count.getD 0)

theorem toNat_byteWord (count : Option Nat) :
    (byteWord count).toNat = count.getD 0 % UInt32.size :=
  UInt32.toNat_ofNat'

theorem byteWord_eq_zero_iff (count : Option Nat) :
    byteWord count = 0 ↔ UInt32.size ∣ count.getD 0 := by
  rw [← UInt32.toNat_inj, toNat_byteWord, Nat.dvd_iff_mod_eq_zero]
  rfl

theorem narrows_map_byteWord (counts : List (Option Nat)) :
    Narrows counts (counts.map byteWord) := by
  have modulo : (counts.map byteWord).map (·.toNat) =
      counts.map fun count => count.getD 0 % UInt32.size := by
    rw [List.map_map]
    exact List.map_congr_left fun count _ => toNat_byteWord count
  refine ⟨modulo, ?_, ?_⟩
  · rw [modulo, List.map_inj_left]
    exact forall₂_congr fun count _ => Nat.mod_eq_iff_lt (by decide)
  · intro index count word counted listed
    rw [List.getElem?_map, counted, Option.map_some, Option.some.injEq] at listed
    rw [← listed, byteWord_eq_zero_iff]

section Rows

variable {outline : Outline} {standing : Option Global} {used : Bool} {resolved : Resolved}
  {resource : Declared.Resource}

theorem listed_size (h : resource? outline standing used resolved = some resource) :
    (if resource.kind.hasByteSize then [resource.size] else []) =
      (resolved.measured?.toList.map Ty.byteSize?).map byteWord := by
  cases resolved with
  | descriptor _ _ _ binding =>
    cases h
    cases binding <;> rfl
  | pushConstant =>
    cases h
    rfl
  | input | output =>
    obtain ⟨_, _, rfl⟩ := Option.map_eq_some_iff.mp h
    rfl
  | specConstant => cases h

theorem listed_members (outline : Outline) (position : Nat) (row : Resolved × Declared.Resource) :
    (rowMembers outline position row).flatMap (fun member => [member.offset, member.size]) =
      ((blockType? row.1).toList.flatMap fun type => type.members.flatMap fun member =>
        [member.offset, member.type.byteSize?]).map byteWord := by
  rw [rowMembers]
  cases blockType? row.1 with
  | none => rfl
  | some type =>
    have members := congrArg (List.flatMap fun numbers => [numbers.2.1, numbers.2.2])
      (map_membersOf outline position row.2 type)
    rw [List.flatMap_map, List.flatMap_map] at members
    rw [Option.toList_some, List.flatMap_singleton, List.map_flatMap]
    simpa only [List.map_cons, List.map_nil] using members

theorem listedLayout_eq (h : resource? outline standing used resolved = some resource)
    (position : Nat) : listedLayout resource (rowMembers outline position (resolved, resource)) =
      (countedLayout resolved).map byteWord := by
  rw [listedLayout, listed_size h, listed_members, countedLayout, List.map_append]

end Rows

/-- Whatever variables are handed over, each resource is listed for one of them, its layout in words
for what was counted, and each member under a resource. -/
theorem list_narrows (outline : Outline) (entry : EntryPoint) (usedKeys : List InterfaceKey)
    (found : List Resolved) :
    ∃ sources : List Resolved,
      List.Forall₂ (fun resolved resource => resolved ∈ found ∧
          resource? outline (findGlobal? outline entry resolved) resource.used resolved =
            some resource)
        sources (list outline entry usedKeys found).resources ∧
      (∀ member ∈ (list outline entry usedKeys found).members,
        member.parent < (list outline entry usedKeys found).resources.length) ∧
      ∀ (position : Nat) (resolved : Resolved) (resource : Declared.Resource),
        sources[position]? = some resolved →
        (list outline entry usedKeys found).resources[position]? = some resource →
          Narrows (countedLayout resolved) (listedLayout resource
            ((list outline entry usedKeys found).members.filter (·.parent == position))) := by
  obtain ⟨resources, members⟩ := list_rows outline entry usedKeys found
  refine ⟨(rows outline entry usedKeys found).map Prod.fst, ?_, ?_, ?_⟩
  · rw [resources, List.forall₂_map_left_iff, List.forall₂_map_right_iff, List.forall₂_same]
    intro ⟨resolved, resource⟩ mem
    obtain ⟨known, declares⟩ := of_mem_rows mem
    exact ⟨known, by rw [resource?_used declares]; exact declares⟩
  · intro member mem
    obtain ⟨resource, here, _⟩ :=
      (list_wellListed outline entry usedKeys found).parents member mem
    exact (List.getElem?_eq_some_iff.mp here).1
  · intro position resolved resource source listed
    rw [resources, List.getElem?_map, Option.map_eq_some_iff] at listed
    obtain ⟨⟨own, _⟩, here, rfl⟩ := listed
    rw [List.getElem?_map, here] at source
    obtain rfl : own = resolved := Option.some.inj source
    obtain ⟨_, declares⟩ := of_mem_rows (List.mem_of_getElem? here)
    rw [members, filter_allMembers here, listedLayout_eq declares]
    exact narrows_map_byteWord _

/-- The words of a module with a struct that holds an array of `2 ^ 30` words, as the storage buffer
20 and as the push constants 21. Its entry point loads both. -/
def hugeBlocks : List UInt32 :=
  [119734787, 66304, 0, 40, 0, 131089, 1, 196622, 0, 1, 327695, 5, 1, 1852399981, 0, 393232, 1, 17,
   1, 1, 1, 262149, 20, 1635017060, 0, 262149, 21, 1752397168, 0, 262215, 10, 6, 4, 196679, 11, 2,
   327752, 11, 0, 35, 0, 262215, 20, 34, 0, 262215, 20, 33, 0, 131091, 3, 196641, 4, 3, 262165, 5,
   32, 0, 262187, 5, 6, 1073741824, 262172, 10, 5, 6, 196638, 11, 10, 262176, 12, 12, 11, 262203,
   12, 20, 12, 262176, 13, 9, 11, 262203, 13, 21, 9, 327734, 3, 1, 0, 4, 131320, 15, 262205, 11, 16,
   20, 262205, 11, 17, 21, 65789, 65592]

def hugeBlock : Ty :=
  .struct none (.ofList
    [⟨none, some 0, .readWrite, .array (.scalar (.integer 32 false)) (some 0x40000000) (some 4)⟩])

def hugeVariables : List Resolved :=
  [.descriptor (some "data") 0 0 (.storageBuffer .readWrite) hugeBlock 1,
    .pushConstant (some "push") hugeBlock]

def hugeReading : Reading :=
  ⟨"main",
   [⟨"data", ⟨20, 11, 11⟩, .storageBuffer, .undefined, .readWrite, .unknown, 0, 0, 1, true⟩,
    ⟨"push", ⟨21, 11, 11⟩, .pushConstant, .undefined, .readWrite, .unknown, 0, 0, 0, true⟩],
   [⟨"", 10, ⟨20, 11, 11⟩, 0, true, 0, 0⟩, ⟨"", 10, ⟨21, 11, 11⟩, 1, true, 0, 0⟩],
   ⟨1, 1, 1⟩, 0⟩

/-- Block and array are `2 ^ 32` bytes long and are listed as if they had no size. -/
theorem read_hugeBlocks :
    (resolveChosen resolveModule .standard hugeBlocks "main").toOption.map (·.declared) =
        some hugeVariables ∧
      (readWith resolveModule .standard hugeBlocks).outcome = .ok hugeReading ∧
      hugeVariables.map countedLayout =
        [[some 0, some UInt32.size], [some UInt32.size, some 0, some UInt32.size]] ∧
      (hugeReading.resources.zipIdx.map fun (resource, position) =>
        listedLayout resource (hugeReading.members.filter (·.parent == position))) =
          [[0, 0], [0, 0, 0]] := by
  refine ⟨?_, ?_, ?_, ?_⟩
  · decide +kernel
  · decide +kernel
  · decide +kernel
  · decide

end Listing

end Spirv

end ShaderInterface
