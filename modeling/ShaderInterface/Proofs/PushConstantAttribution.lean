import ShaderInterface.Proofs.ListingInvariant

/-! To which variable the push constants of a reading belong. The resolver tells of the blocks of
every entry point and does not say whose they are. The block that an entry point refers to is listed
as its own just if no block of another type is taken for its variable first, and if no other
variable is told of by a block of its type. Blocks with names of their own and types of their own
are. -/
namespace ShaderInterface.Spirv

namespace Listing

def isPush : Resolved → Bool
  | .pushConstant .. => true
  | _ => false

def pushOf (outline : Outline) (types : Global → Ty) (declared : Global) : Resolved :=
  .pushConstant (outline.name? declared.id) (types declared)

/-- The push constants that are told of are those of the module, whichever entry point lists them,
each once and with its own name and type. -/
def ReportsPushConstants (outline : Outline) (types : Global → Ty) (found : List Resolved) : Prop :=
  (found.filter isPush).Perm (outline.pushConstants.map (pushOf outline types))

instance (outline : Outline) (types : Global → Ty) (found : List Resolved) :
    Decidable (ReportsPushConstants outline types found) :=
  inferInstanceAs (Decidable (List.Perm _ _))

/-- The first resolved variable that is taken for a variable is a block of a type. -/
def FirstHasType (outline : Outline) (entry : EntryPoint) (types : Global → Ty)
    (found : List Resolved) (type : Ty) (declared : Global) : Prop :=
  ∃ other ∈ outline.pushConstants, types other = type ∧
    firstFor? outline entry found declared.id = some (pushOf outline types other)

/-- What is listed follows a push constant variable: one push constant alone is used, it has the id
of the variable, and the members that name it are those of a type, in order. -/
def Follows (resources : List Declared.Resource) (members : List Declared.Member)
    (declared : Global) (type : Ty) : Prop :=
  ∃ (position : Nat) (resource : Declared.Resource), resources[position]? = some resource ∧
    resource.kind = .pushConstant ∧ resource.used = true ∧ resource.ids.id = declared.id ∧
      resources.filter (fun listed => listed.kind == .pushConstant && listed.used) = [resource] ∧
        (members.filter (·.parent == position)).map (fun m => (m.name, m.offset, m.size)) =
          type.members.map fun m => (m.name.getD "", byteWord m.offset, byteWord m.type.byteSize?)

section PushConstants

variable {outline : Outline} {entry : EntryPoint} {resolvedEntry : Resolution.Entry}
  {types : Global → Ty} {one other : Global} {resolved : Resolved} {resource : Declared.Resource}
  {found : List Resolved}

private theorem kind_eq_pushConstant_iff {standing : Option Global} {used : Bool}
    (h : resource? outline standing used resolved = some resource) :
    resource.kind = .pushConstant ↔ isPush resolved = true := by
  have kind := resource?_kind h
  cases resolved with
  | descriptor _ _ _ binding =>
    rw [← Option.some.inj kind]
    cases binding <;> simp [isPush, kindOf]
  | pushConstant | input | output =>
    rw [← Option.some.inj kind]
    simp [isPush]
  | specConstant => cases h

private theorem exists_traced_pushConstant (entry : EntryPoint) (mem : one ∈ outline.pushConstants)
    (name : Option String) (type : Ty) :
    ∃ standing, findGlobal? outline entry (.pushConstant name type) = some standing := by
  obtain ⟨first, here⟩ : ∃ first, outline.pushConstants.head? = some first := by
    cases known : outline.pushConstants with
    | nil =>
      rw [known] at mem
      cases mem
    | cons first _ => exact ⟨first, rfl⟩
  refine Option.isSome_iff_exists.mp ?_
  rw [findGlobal?, Outline.pushConstant?, Option.isSome_or, here, Option.isSome_some, Bool.or_true]

private theorem hasKeyIn_iff_of_isPush
    (only : resolvedEntry.referenced.filter isPush = [pushOf outline types one])
    (push : isPush resolved = true) : hasKeyIn (usedKeys resolvedEntry) resolved = true ↔
      ∃ name, resolved = .pushConstant name (types one) := by
  rw [hasKeyIn_usedKeys_iff]
  have refers {third : Resolved} : third ∈ resolvedEntry.referenced ∧ isPush third = true ↔
      third = pushOf outline types one := by
    rw [← List.mem_filter, only, List.mem_singleton]
  constructor
  · rintro ⟨third, mem, key, own, shared⟩
    cases resolved with
    | pushConstant name type =>
      obtain rfl := Option.some.inj own
      cases third with
      | pushConstant _ otherType =>
        obtain rfl : otherType = type := by simpa [Resolved.key?] using shared
        cases refers.mp ⟨mem, rfl⟩
        exact ⟨name, rfl⟩
      | descriptor | input | output | specConstant => simp [Resolved.key?] at shared
    | descriptor | input | output | specConstant => cases push
  · rintro ⟨name, rfl⟩
    exact ⟨pushOf outline types one, (refers.mpr rfl).1, _, rfl, rfl⟩

private theorem used_pushConstant_iff
    (only : resolvedEntry.referenced.filter isPush = [pushOf outline types one])
    (mem : (resolved, resource) ∈ rows outline entry (usedKeys resolvedEntry) found) :
    resource.kind = .pushConstant ∧ resource.used = true ↔
      ∃ name, resolved = .pushConstant name (types one) := by
  obtain ⟨_, declares⟩ := of_mem_rows mem
  rw [kind_eq_pushConstant_iff declares, resource?_used declares]
  constructor
  · rintro ⟨push, used⟩
    exact (hasKeyIn_iff_of_isPush only push).mp used
  · rintro ⟨name, rfl⟩
    exact ⟨rfl, (hasKeyIn_iff_of_isPush only rfl).mpr ⟨name, rfl⟩⟩

private theorem firstHasType_of_mem_rows {name : Option String} {type : Ty}
    {usedKeys : List InterfaceKey} (reports : ReportsPushConstants outline types found)
    (mem : one ∈ outline.pushConstants)
    (row : (.pushConstant name type, resource) ∈ rows outline entry usedKeys found) :
    ∃ standing ∈ outline.pushConstants,
      findGlobal? outline entry (.pushConstant name type) = some standing ∧
        resource.ids.id = standing.id ∧ FirstHasType outline entry types found type standing := by
  obtain ⟨standing, traced⟩ := exists_traced_pushConstant entry mem name type
  obtain ⟨first, declares⟩ := (mem_rows_iff_of_traced traced).mp row
  have reported : .pushConstant name type ∈ found.filter isPush :=
    List.mem_filter.mpr ⟨List.mem_of_find?_eq_some first, rfl⟩
  obtain ⟨other, known, told⟩ := List.mem_map.mp (reports.mem_iff.mp reported)
  obtain ⟨_, sameType⟩ := Resolved.pushConstant.inj told
  refine ⟨standing, mem_pushConstants_of_findGlobal? traced, traced, ?_, other, known, sameType, ?_⟩
  · rw [resource?_ids declares]
    rfl
  · rw [first, told]

private theorem exists_row_of_firstHasType
    (only : resolvedEntry.referenced.filter isPush = [pushOf outline types one])
    (h : FirstHasType outline entry types found (types one) other) :
    ∃ row ∈ rows outline entry (usedKeys resolvedEntry) found, row.2.kind = .pushConstant ∧
      row.2.used = true ∧ row.2.ids.id = other.id ∧ blockType? row.1 = some (types one) := by
  obtain ⟨third, _, sameType, first⟩ := h
  obtain ⟨_, resource, _, _, row, ids, _⟩ := exists_row_of_firstFor? (usedKeys resolvedEntry) first
  obtain ⟨kind, used⟩ := (used_pushConstant_iff only row).mpr ⟨_, by rw [pushOf, sameType]⟩
  exact ⟨_, row, kind, used, ids, by rw [← sameType]; rfl⟩

/-- The push constants of a listing follow the variable that the entry point refers to just if it is
the one for which the first that is taken has its type. -/
theorem follows_iff (reports : ReportsPushConstants outline types resolvedEntry.declared)
    (only : resolvedEntry.referenced.filter isPush = [pushOf outline types one])
    (mem : one ∈ outline.pushConstants) :
    Follows (list outline entry (usedKeys resolvedEntry) resolvedEntry.declared).resources
        (list outline entry (usedKeys resolvedEntry) resolvedEntry.declared).members one
        (types one) ↔
      ∀ other ∈ outline.pushConstants,
        FirstHasType outline entry types resolvedEntry.declared (types one) other ↔
          other.id = one.id := by
  obtain ⟨resources, members⟩ :=
    list_rows outline entry (usedKeys resolvedEntry) resolvedEntry.declared
  rw [resources, members]
  constructor
  -- The one used push constant stands in a row, so its type is the one referred to and it is first
  -- for its variable; whatever else is first with that type would be used beside it.
  · rintro ⟨position, resource, here, kind, used, ids, alone, _⟩ other _
    rw [List.getElem?_map, Option.map_eq_some_iff] at here
    obtain ⟨⟨resolved, resource⟩, here, rfl⟩ := here
    have row := List.mem_of_getElem? here
    obtain ⟨name, rfl⟩ := (used_pushConstant_iff only row).mp ⟨kind, used⟩
    constructor
    · intro first
      obtain ⟨listed, known, otherKind, otherUsed, otherIds, _⟩ :=
        exists_row_of_firstHasType only first
      have among : listed.2 ∈ [resource] := by
        rw [← alone]
        exact List.mem_filter.mpr ⟨List.mem_map_of_mem known, by simp [otherKind, otherUsed]⟩
      rw [← otherIds, List.mem_singleton.mp among]
      exact ids
    · intro same
      obtain ⟨standing, _, _, standingIds, third, known, sameType, first⟩ :=
        firstHasType_of_mem_rows reports mem row
      refine ⟨third, known, sameType, ?_⟩
      rw [same, ← ids, standingIds, first]
  · intro firsts
    obtain ⟨row, known, kind, used, ids, block⟩ :=
      exists_row_of_firstHasType only ((firsts one mem).mpr rfl)
    obtain ⟨position, here⟩ := List.getElem?_of_mem known
    refine ⟨position, row.2, by rw [List.getElem?_map, here]; rfl, kind, used, ids, ?_, ?_⟩
    · refine filter_rows_eq_singleton one.id known (by simp [kind, used]) ?_
      rintro ⟨resolved, listed⟩ known selected
      obtain ⟨name, rfl⟩ : ∃ name, resolved = .pushConstant name (types one) :=
        (used_pushConstant_iff only known).mp (by simpa using selected)
      obtain ⟨standing, push, traced, _, first⟩ := firstHasType_of_mem_rows reports mem known
      exact isFor_iff.mpr ⟨standing, traced, (firsts standing push).mp first⟩
    · rw [filter_allMembers here, rowMembers, block]
      exact map_membersOf outline position row.2 (types one)

private theorem isPush_of_findGlobal? (traced : findGlobal? outline entry resolved = some one)
    (mem : one ∈ outline.pushConstants) : isPush resolved = true := by
  have storage : one.storage = .pushConstant := beq_iff_eq.mp (List.mem_filter.mp mem).2
  have fits := fits_of_findGlobal? traced
  cases resolved with
  | pushConstant => rfl
  | descriptor | input | output | specConstant =>
    simp [Fits, Outline.isDescriptor, storage] at fits

theorem findGlobal?_pushOf
    (named : ∀ other ∈ outline.pushConstants, ∃ name, outline.name? other.id = some name ∧
      ∀ third ∈ outline.pushConstants, outline.name? third.id = some name → third = other)
    (mem : one ∈ outline.pushConstants) :
    findGlobal? outline entry (pushOf outline types one) = some one := by
  obtain ⟨name, given, alone⟩ := named one mem
  have first : (outline.pushConstants.find? fun candidate =>
      outline.name? candidate.id == some name) = some one := by
    have known : (outline.pushConstants.find? fun candidate =>
        outline.name? candidate.id == some name).isSome := by
      rw [List.find?_isSome]
      exact ⟨one, mem, beq_iff_eq.mpr given⟩
    obtain ⟨other, first⟩ := Option.isSome_iff_exists.mp known
    have same : outline.name? other.id = some name := by simpa using List.find?_some first
    rw [first, alone other (List.mem_of_find?_eq_some first) same]
  rw [pushOf, findGlobal?, Outline.pushConstant?, given, Option.bind_some, first]
  rfl

/-- Where push constants are told apart by their names, and no other has the type of one, the first
that is taken for it is the only one of its type. -/
theorem firstHasType_iff_of_named (reports : ReportsPushConstants outline types found)
    (distinct : (outline.globals.map (·.id)).Nodup)
    (named : ∀ other ∈ outline.pushConstants, ∃ name, outline.name? other.id = some name ∧
      ∀ third ∈ outline.pushConstants, outline.name? third.id = some name → third = other)
    (typed : ∀ other ∈ outline.pushConstants, types other = types one → other = one)
    (mem : other ∈ outline.pushConstants) (self : one ∈ outline.pushConstants) :
    FirstHasType outline entry types found (types one) other ↔ other.id = one.id := by
  constructor
  · rintro ⟨third, known, sameType, first⟩
    obtain rfl := typed third known sameType
    obtain ⟨standing, traced, same⟩ := isFor_iff.mp (List.find?_some first)
    rw [← same, Option.some.inj (traced.symm.trans (findGlobal?_pushOf named known))]
  · intro same
    obtain rfl := List.inj_on_of_nodup_map distinct (List.mem_of_mem_filter mem)
      (List.mem_of_mem_filter self) same
    refine ⟨other, mem, rfl, ?_⟩
    have told : pushOf outline types other ∈ found := by
      have reported := reports.mem_iff.mpr (List.mem_map_of_mem mem)
      exact (List.mem_filter.mp reported).1
    obtain ⟨resolved, listed, first, traced⟩ :=
      exists_firstFor?_of_nodup distinct told (findGlobal?_pushOf named mem)
    have reported : resolved ∈ found.filter isPush :=
      List.mem_filter.mpr ⟨listed, isPush_of_findGlobal? traced mem⟩
    obtain ⟨third, known, rfl⟩ := List.mem_map.mp (reports.mem_iff.mp reported)
    rw [first, ← Option.some.inj (traced.symm.trans (findGlobal?_pushOf named known))]

end PushConstants

end Listing

/-- When a reading tells of the push constants of its entry point. Let the entry point refer to one
push constant variable alone. Then what is listed follows that variable just if, of all the push
constant variables, it is the one for which the first that is taken has its type. -/
theorem read_follows_iff {resolver : Resolver} {config : Config} {words : List UInt32}
    {outline : Outline} {declared : EntryPoint} {entry : Resolution.Entry} {types : Global → Ty}
    {one : Global} (scanned : scan words = .ok outline)
    (chosen : chooseEntry config outline = .ok declared)
    (resolved : resolveChosen resolver config words declared.name = .ok entry)
    (reports : Listing.ReportsPushConstants outline types entry.declared)
    (only : entry.referenced.filter Listing.isPush = [Listing.pushOf outline types one])
    (mem : one ∈ outline.pushConstants) :
    ∃ reading, (readWith resolver config words).outcome = .ok reading ∧
      (Listing.Follows reading.resources reading.members one (types one) ↔
        ∀ other ∈ outline.pushConstants,
          Listing.FirstHasType outline declared types entry.declared (types one) other ↔
            other.id = one.id) := by
  have read : (readEntry outline declared entry).outcome = .ok _ := rfl
  refine ⟨_, readWith_eq_ok_iff.mpr ⟨outline, declared, entry, scanned, chosen, resolved, read⟩, ?_⟩
  exact Listing.follows_iff reports only mem

def secondBlockEntry : EntryPoint := ⟨⟨5⟩, 2, "two", [21]⟩

def secondBlock : Global := ⟨21, 13, .pushConstant⟩

/-- The outline of the module with two blocks. The records between say how the blocks are named. -/
def twoBlocksOutline (names : List Record) : Outline :=
  ⟨[.entryPoint ⟨⟨5⟩, 1, "one", [20]⟩, .entryPoint secondBlockEntry] ++ names ++
    [.type 10 (.struct [5]), .type 11 (.struct [5, 5]), .type 12 (.pointer 10),
      .global ⟨20, 12, .pushConstant⟩, .type 13 (.pointer 11), .global secondBlock]⟩

def floatBlock (offsets : List Nat) : Ty :=
  .struct none (.ofList (offsets.map fun offset =>
    ⟨none, some offset, .readWrite, .scalar (.float 32)⟩))

def blockType (declared : Global) : Ty :=
  if declared.id = 20 then floatBlock [0] else floatBlock [0, 4]

def secondBlocks (one other : Option String) : Resolution.Entry :=
  ⟨"two", [⟨.localSize, [1, 1, 1]⟩],
   [.pushConstant one (floatBlock [0]), .pushConstant other (floatBlock [0, 4])],
   [.pushConstant other (floatBlock [0, 4])]⟩

theorem read_follows_iff_twoBlocks :
    resolveChosen resolveModule secondEntry (twoBlocks blockNames) "two" =
        .ok (secondBlocks (some "a") (some "b")) ∧
      ∃ reading, (readWith resolveModule secondEntry (twoBlocks blockNames)).outcome =
          .ok reading ∧
        Listing.Follows reading.resources reading.members secondBlock (blockType secondBlock) := by
  have scanned : scan (twoBlocks blockNames) =
      .ok (twoBlocksOutline [.idName 20 "a", .idName 21 "b"]) := by
    decide +kernel
  have chosen : chooseEntry secondEntry (twoBlocksOutline [.idName 20 "a", .idName 21 "b"]) =
      .ok secondBlockEntry := by
    decide +kernel
  have resolved : resolveChosen resolveModule secondEntry (twoBlocks blockNames) "two" =
      .ok (secondBlocks (some "a") (some "b")) := by
    decide +kernel
  have reports : Listing.ReportsPushConstants (twoBlocksOutline [.idName 20 "a", .idName 21 "b"])
      blockType (secondBlocks (some "a") (some "b")).declared := by
    decide +kernel
  have only : (secondBlocks (some "a") (some "b")).referenced.filter Listing.isPush =
      [Listing.pushOf (twoBlocksOutline [.idName 20 "a", .idName 21 "b"]) blockType
        secondBlock] := by
    decide +kernel
  have mem : secondBlock ∈
      (twoBlocksOutline [.idName 20 "a", .idName 21 "b"]).pushConstants := by
    decide +kernel
  obtain ⟨reading, read, follows⟩ := read_follows_iff scanned chosen resolved reports only mem
  refine ⟨resolved, reading, read, follows.mpr fun other known => ?_⟩
  refine Listing.firstHasType_iff_of_named reports (by decide +kernel) ?_ (by decide +kernel)
    known mem
  intro third told
  obtain rfl | rfl : third = ⟨20, 12, .pushConstant⟩ ∨ third = secondBlock := by
    simpa [twoBlocksOutline, Outline.pushConstants, Outline.globals, secondBlock] using told
  · exact ⟨"a", by decide +kernel, by decide +kernel⟩
  · exact ⟨"b", by decide +kernel, by decide +kernel⟩

/-- Where the blocks have no names, that of the other entry point is taken for the block that "two"
loads, and nothing is used. -/
theorem read_unnamedBlocks :
    resolveChosen resolveModule secondEntry (twoBlocks []) "two" = .ok (secondBlocks none none) ∧
      Listing.ReportsPushConstants (twoBlocksOutline []) blockType
          (secondBlocks none none).declared ∧
        (secondBlocks none none).referenced.filter Listing.isPush =
            [Listing.pushOf (twoBlocksOutline []) blockType secondBlock] ∧
          (read secondEntry (twoBlocks [])).outcome.toOption.map (·.resources.map fun resource =>
              (resource.ids.id, resource.size, resource.used)) = some [(21, 4, false)] := by
  refine ⟨?_, ?_, ?_, ?_⟩
  all_goals decide +kernel

end ShaderInterface.Spirv
