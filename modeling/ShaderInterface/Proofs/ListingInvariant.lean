import ShaderInterface.Proofs.DeclarationOrder
import ShaderInterface.Proofs.InterfaceUsage

/-! What holds of every reading, whatever the resolver hands over: its resources stand in the order
of declaration, its members under the blocks they belong to. -/
namespace ShaderInterface

/-- The kinds whose members are listed. -/
def Declared.Kind.isBlock : Kind → Bool
  | uniformBuffer | storageBuffer | pushConstant => true
  | _ => false

namespace Spirv.Listing

section Blocks

variable {outline : Outline} {position : Nat} {resolved : Resolved} {resource : Declared.Resource}

theorem exists_blockType?_iff {kind : Declared.Kind} (h : declaredKind? resolved = some kind) :
    (∃ type, blockType? resolved = some type) ↔ kind.isBlock = true := by
  cases resolved with
  | descriptor _ _ _ binding =>
    cases h
    cases binding <;> simp [blockType?, kindOf, Declared.Kind.isBlock]
  | pushConstant | input | output =>
    cases h
    simp [blockType?, Declared.Kind.isBlock]
  | specConstant => cases h

private theorem of_mem_membersOf {type : Ty} {member : Declared.Member}
    (mem : member ∈ membersOf outline position resource type) :
    member.parent = position ∧ member.parentIds = resource.ids ∧ member.used = resource.used := by
  obtain ⟨_, _, rfl⟩ := List.mem_map.mp mem
  exact ⟨rfl, rfl, rfl⟩

/-- Members come in the order of the struct, each with its own name, offset and size. -/
theorem map_membersOf (outline : Outline) (position : Nat) (resource : Declared.Resource)
    (type : Ty) :
    (membersOf outline position resource type).map (fun m => (m.name, m.offset, m.size)) =
      type.members.map fun m =>
        (m.name.getD "", byteWord m.offset, byteWord m.type.byteSize?) := by
  rw [membersOf, List.map_map]
  conv_rhs => rw [← List.zipIdx_map_fst 0 type.members, List.map_map]
  rfl

private theorem of_mem_rowMembers {row : Resolved × Declared.Resource} {member : Declared.Member}
    (mem : member ∈ rowMembers outline position row) :
    (∃ type, blockType? row.1 = some type) ∧ member.parent = position ∧
      member.parentIds = row.2.ids ∧ member.used = row.2.used := by
  unfold rowMembers at mem
  split at mem
  · rename_i type block
    exact ⟨⟨type, block⟩, of_mem_membersOf mem⟩
  · cases mem

variable {rows : List (Resolved × Declared.Resource)}

private theorem exists_of_mem_allMembers {member : Declared.Member}
    (mem : member ∈ allMembers outline rows) :
    ∃ row, rows[member.parent]? = some row ∧ member ∈ rowMembers outline member.parent row := by
  obtain ⟨⟨row, position⟩, here, own⟩ := List.mem_flatMap.mp mem
  have parent := (of_mem_rowMembers own).2.1
  exact ⟨row, by rw [parent]; exact List.mk_mem_zipIdx_iff_getElem?.mp here, by
    rw [parent]; exact own⟩

private theorem pairwise_allMembers :
    (allMembers outline rows).Pairwise (·.parent ≤ ·.parent) := by
  rw [allMembers, List.pairwise_flatMap]
  constructor
  · rintro ⟨row, position⟩ _
    refine List.pairwise_of_forall_mem_list fun one first other second => ?_
    exact Nat.le_of_eq ((of_mem_rowMembers first).2.1.trans (of_mem_rowMembers second).2.1.symm)
  · have rising : (rows.zipIdx.map Prod.snd).Pairwise (· < ·) := by
      rw [List.zipIdx_map_snd]
      exact List.pairwise_lt_range'
    refine (List.pairwise_map.mp rising).imp fun less one first other second => ?_
    rw [(of_mem_rowMembers first).2.1, (of_mem_rowMembers second).2.1]
    exact Nat.le_of_lt less

theorem filter_allMembers {row : Resolved × Declared.Resource}
    (here : rows[position]? = some row) :
    (allMembers outline rows).filter (·.parent == position) =
      rowMembers outline position row := by
  obtain ⟨inside, rfl⟩ := List.getElem?_eq_some_iff.mp here
  have own : (rowMembers outline position rows[position]).filter (·.parent == position) =
      rowMembers outline position rows[position] :=
    List.filter_eq_self.mpr fun member mem => beq_iff_eq.mpr (of_mem_rowMembers mem).2.1
  have elsewhere {others : List ((Resolved × Declared.Resource) × Nat)}
      (apart : position ∉ others.map Prod.snd) :
      (others.flatMap fun item => rowMembers outline item.2 item.1).filter
        (·.parent == position) = [] := by
    rw [List.filter_eq_nil_iff]
    intro member mem same
    obtain ⟨⟨row, index⟩, known, inner⟩ := List.mem_flatMap.mp mem
    rw [beq_iff_eq, (of_mem_rowMembers inner).2.1] at same
    exact apart (List.mem_map.mpr ⟨(row, index), known, same⟩)
  -- The rows in front of the position and behind it have other positions.
  have split : rows.zipIdx = (rows.take position).zipIdx ++ (rows[position], position) ::
      (rows.drop (position + 1)).zipIdx (position + 1) := by
    conv_lhs => rw [← List.take_append_drop position rows, ← List.getElem_cons_drop inside,
      List.zipIdx_append, List.zipIdx_cons, List.length_take,
      Nat.min_eq_left (Nat.le_of_lt inside), Nat.zero_add]
  rw [allMembers, split, List.flatMap_append, List.flatMap_cons, List.filter_append,
    List.filter_append, own, elsewhere, elsewhere, List.nil_append, List.append_nil]
  · rw [List.zipIdx_map_snd, List.mem_range'_1]
    omega
  · rw [List.zipIdx_map_snd, List.mem_range'_1, List.length_take]
    omega

end Blocks

/-- What is listed of an interface is in order. The resources that are traced back to a variable
come first, one for each variable and as these are declared; no other is a stage input or output. A
member agrees with the block that it names, and those that name a block are the members of its
struct. -/
structure WellListed (outline : Outline) (entry : EntryPoint) (found : List Resolved)
    (resources : List Declared.Resource) (members : List Declared.Member) : Prop where
  sorted : ∃ traced untraced, resources = traced ++ untraced ∧
    (traced.map (·.ids.id)).Nodup ∧
    traced.Pairwise (fun one other => outline.Precedes one.ids.id other.ids.id) ∧
    (∀ resource ∈ traced, ∃ resolved ∈ found, ∃ declared ∈ outline.globals,
      findGlobal? outline entry resolved = some declared ∧ resource.ids.id = declared.id ∧
        resource? outline (some declared) resource.used resolved = some resource) ∧
    (∀ resource ∈ untraced, resource.kind ≠ .stageInput ∧ resource.kind ≠ .stageOutput ∧
      ∃ resolved ∈ found, findGlobal? outline entry resolved = none ∧
        resource? outline none resource.used resolved = some resource)
  parents : ∀ member ∈ members, ∃ resource, resources[member.parent]? = some resource ∧
    resource.kind.isBlock = true ∧ member.parentIds = resource.ids ∧ member.used = resource.used
  ordered : members.Pairwise (·.parent ≤ ·.parent)
  blocks : ∀ position resource, resources[position]? = some resource →
    resource.kind.isBlock = true → ∃ resolved ∈ found, ∃ type,
      blockType? resolved = some type ∧
      resource? outline (findGlobal? outline entry resolved) resource.used resolved =
        some resource ∧
      (members.filter (·.parent == position)).map (fun m => (m.name, m.offset, m.size)) =
        type.members.map fun m => (m.name.getD "", byteWord m.offset, byteWord m.type.byteSize?)

section Listed

variable {outline : Outline} {entry : EntryPoint} {usedKeys : List InterfaceKey}
  {found : List Resolved} {resolved : Resolved} {resource : Declared.Resource}

theorem of_mem_rows (mem : (resolved, resource) ∈ rows outline entry usedKeys found) :
    resolved ∈ found ∧ resource? outline (findGlobal? outline entry resolved)
      (hasKeyIn usedKeys resolved) resolved = some resource := by
  rw [rows_eq] at mem
  rcases List.mem_append.mp mem with traced | untraced
  · obtain ⟨declared, standing, first, declares⟩ := mem_tracedRows_iff.mp traced
    exact ⟨List.mem_of_find?_eq_some first, by rw [standing]; exact declares⟩
  · obtain ⟨known, standing, declares⟩ := mem_untracedRows_iff.mp untraced
    exact ⟨known, by rw [standing]; exact declares⟩

theorem kind_of_untraced {used : Bool} (h : resource? outline none used resolved = some resource) :
    resource.kind ≠ .stageInput ∧ resource.kind ≠ .stageOutput := by
  cases resolved with
  | descriptor _ _ _ binding =>
    cases h
    cases binding <;> exact ⟨Declared.Kind.noConfusion, Declared.Kind.noConfusion⟩
  | pushConstant =>
    cases h
    exact ⟨Declared.Kind.noConfusion, Declared.Kind.noConfusion⟩
  | input | output | specConstant => cases h

theorem list_wellListed (outline : Outline) (entry : EntryPoint) (usedKeys : List InterfaceKey)
    (found : List Resolved) :
    WellListed outline entry found (list outline entry usedKeys found).resources
      (list outline entry usedKeys found).members := by
  obtain ⟨resources, members⟩ := list_rows outline entry usedKeys found
  rw [resources, members]
  refine ⟨?_, ?_, pairwise_allMembers, ?_⟩
  · refine ⟨(tracedRows outline entry usedKeys found).map Prod.snd,
      (untracedRows outline entry usedKeys found).map Prod.snd,
      by rw [rows_eq, List.map_append], ?_, ?_, ?_, ?_⟩
    · rw [List.map_map]
      exact List.pairwise_map.mpr (pairwise_tracedRows.imp Outline.Precedes.ne)
    · exact List.pairwise_map.mpr pairwise_tracedRows
    · intro resource mem
      obtain ⟨⟨resolved, _⟩, listed, rfl⟩ := List.mem_map.mp mem
      obtain ⟨declared, standing, first, declares⟩ := mem_tracedRows_iff.mp listed
      refine ⟨resolved, List.mem_of_find?_eq_some first, declared, mem_of_findGlobal? standing,
        standing, by rw [resource?_ids declares]; rfl, ?_⟩
      rw [resource?_used declares]
      exact declares
    · intro resource mem
      obtain ⟨⟨resolved, _⟩, listed, rfl⟩ := List.mem_map.mp mem
      obtain ⟨known, standing, declares⟩ := mem_untracedRows_iff.mp listed
      obtain ⟨noInput, noOutput⟩ := kind_of_untraced declares
      refine ⟨noInput, noOutput, resolved, known, standing, ?_⟩
      rw [resource?_used declares]
      exact declares
  · intro member mem
    obtain ⟨⟨resolved, resource⟩, here, own⟩ := exists_of_mem_allMembers mem
    obtain ⟨block, _, ids, used⟩ := of_mem_rowMembers own
    obtain ⟨_, declares⟩ := of_mem_rows (List.mem_of_getElem? here)
    refine ⟨resource, by rw [List.getElem?_map, here]; rfl, ?_, ids, used⟩
    exact (exists_blockType?_iff (resource?_kind declares)).mp block
  · intro position resource here isBlock
    rw [List.getElem?_map, Option.map_eq_some_iff] at here
    obtain ⟨⟨resolved, _⟩, here, rfl⟩ := here
    obtain ⟨known, declares⟩ := of_mem_rows (List.mem_of_getElem? here)
    obtain ⟨type, block⟩ := (exists_blockType?_iff (resource?_kind declares)).mpr isBlock
    refine ⟨resolved, known, type, block, by rw [resource?_used declares]; exact declares, ?_⟩
    rw [filter_allMembers here, rowMembers, block]
    exact map_membersOf outline position _ type

end Listed

end Spirv.Listing

namespace Spirv

/-- Every reading is in order, whatever the resolver says of the module. -/
theorem read_wellListed {resolver : Resolver} {config : Config} {words : List UInt32}
    {reading : Reading} (h : (readWith resolver config words).outcome = .ok reading) :
    ∃ outline declared entry, scan words = .ok outline ∧
      chooseEntry config outline = .ok declared ∧
        resolveChosen resolver config words declared.name = .ok entry ∧
          Listing.WellListed outline declared entry.declared reading.resources
            reading.members := by
  obtain ⟨outline, declared, entry, scanned, chosen, resolved, read⟩ := readWith_eq_ok_iff.mp h
  refine ⟨outline, declared, entry, scanned, chosen, resolved, ?_⟩
  cases read
  exact Listing.list_wellListed outline declared (usedKeys entry) entry.declared

/-- The words of a module with two entry points, "one" and "two", that load a block of push
constants each: "one" the block 20 of one float, "two" the block 21 of two. The words between say
how the blocks are named. -/
def twoBlocks (names : List UInt32) : List UInt32 :=
  [119734787, 66560, 0, 40, 0, 131089, 1, 196622, 0, 1, 327695, 5, 1, 6647407, 20, 327695, 5, 2,
   7305076, 21, 393232, 1, 17, 1, 1, 1, 393232, 2, 17, 1, 1, 1] ++ names ++
  [196679, 10, 2, 327752, 10, 0, 35, 0, 196679, 11, 2, 327752, 11, 0, 35, 0, 327752, 11, 1, 35, 4,
   131091, 3, 196641, 4, 3, 196630, 5, 32, 196638, 10, 5, 262174, 11, 5, 5, 262176, 12, 9, 10,
   262203, 12, 20, 9, 262176, 13, 9, 11, 262203, 13, 21, 9, 327734, 3, 1, 0, 4, 131320, 30, 262205,
   10, 31, 20, 65789, 65592, 327734, 3, 2, 0, 4, 131320, 32, 262205, 11, 33, 21, 65789, 65592]

def blockNames : List UInt32 := [196613, 20, 97, 196613, 21, 98]

def secondEntry : Config := ⟨false, some "two"⟩

def twoBlocksReading : Reading :=
  ⟨"two",
   [⟨"a", ⟨20, 10, 10⟩, .pushConstant, .undefined, .readWrite, .unknown, 0, 0, 4, false⟩,
    ⟨"b", ⟨21, 11, 11⟩, .pushConstant, .undefined, .readWrite, .unknown, 0, 0, 8, true⟩],
   [⟨"", 5, ⟨20, 10, 10⟩, 0, false, 0, 4⟩, ⟨"", 5, ⟨21, 11, 11⟩, 1, true, 0, 4⟩,
    ⟨"", 5, ⟨21, 11, 11⟩, 1, true, 4, 4⟩],
   ⟨1, 1, 1⟩, 0⟩

theorem read_wellListed_twoBlocks :
    (readWith resolveModule secondEntry (twoBlocks blockNames)).outcome = .ok twoBlocksReading ∧
      ∃ outline declared entry, scan (twoBlocks blockNames) = .ok outline ∧
        chooseEntry secondEntry outline = .ok declared ∧
          resolveChosen resolveModule secondEntry (twoBlocks blockNames) declared.name =
              .ok entry ∧
            Listing.WellListed outline declared entry.declared twoBlocksReading.resources
              twoBlocksReading.members := by
  have read : (readWith resolveModule secondEntry (twoBlocks blockNames)).outcome =
      .ok twoBlocksReading := by
    decide +kernel
  exact ⟨read, read_wellListed read⟩

end Spirv

end ShaderInterface
