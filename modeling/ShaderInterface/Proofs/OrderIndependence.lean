import ShaderInterface.Proofs.StageAttribution

/-! When the order of resolved variables does not matter. Sorting by declaration settles the order
unless two variables come to the same place, and then the first of them counts. So the order matters
just if two such variables would not list the same. -/
namespace ShaderInterface.Spirv

namespace Listing

/-- Two resolved variables that come to the same place: both are taken for one id, or both for
none. -/
def Tied (outline : Outline) (entry : EntryPoint) (one other : Resolved) : Prop :=
  (findGlobal? outline entry one).map (·.id) = (findGlobal? outline entry other).map (·.id)

def content (outline : Outline) (row : Resolved × Declared.Resource) :
    Declared.Resource × List Declared.Member :=
  (row.2, rowMembers outline 0 row)

/-- Variables that come to the same place list the same, if they list anything. -/
def TiesAgree (outline : Outline) (entry : EntryPoint) (usedKeys : List InterfaceKey)
    (found : List Resolved) : Prop :=
  ∀ one ∈ found, ∀ other ∈ found, Tied outline entry one other →
    ∀ row, declared? outline entry usedKeys one = some row →
      ∀ otherRow, declared? outline entry usedKeys other = some otherRow →
        content outline row = content outline otherRow

section Content

variable {outline : Outline} {row otherRow : Resolved × Declared.Resource}

private theorem rowMembers_eq_map (outline : Outline) (position start : Nat)
    (row : Resolved × Declared.Resource) : rowMembers outline position row =
      (rowMembers outline start row).map fun member => { member with parent := position } := by
  unfold rowMembers
  split
  · rw [membersOf, membersOf, List.map_map]
    rfl
  · rfl

private theorem content_eq_iff (position : Nat) : content outline row = content outline otherRow ↔
    row.2 = otherRow.2 ∧
      rowMembers outline position row = rowMembers outline position otherRow := by
  rw [content, content, Prod.mk.injEq]
  refine and_congr_right fun _ => ⟨fun same => ?_, fun same => ?_⟩
  · rw [rowMembers_eq_map outline position 0, same, ← rowMembers_eq_map]
  · rw [rowMembers_eq_map outline 0 position, same, ← rowMembers_eq_map]

private theorem allMembers_eq (rows : List (Resolved × Declared.Resource)) :
    allMembers outline rows = (rows.map (content outline)).zipIdx.flatMap fun item =>
      item.1.2.map fun member => { member with parent := item.2 } := by
  rw [allMembers, List.zipIdx_map, List.flatMap_map]
  refine List.flatMap_congr fun item _ => ?_
  exact rowMembers_eq_map outline item.2 0 item.1

end Content

variable {outline : Outline} {entry : EntryPoint} {usedKeys : List InterfaceKey}
  {found permuted rest : List Resolved} {one other : Resolved}
  {row otherRow : Resolved × Declared.Resource}

private theorem list_eq_of_content
    (same : (rows outline entry usedKeys found).map (content outline) =
      (rows outline entry usedKeys permuted).map (content outline)) :
    (list outline entry usedKeys found).resources =
        (list outline entry usedKeys permuted).resources ∧
      (list outline entry usedKeys found).members =
        (list outline entry usedKeys permuted).members := by
  obtain ⟨resources, members⟩ := list_rows outline entry usedKeys found
  obtain ⟨otherResources, otherMembers⟩ := list_rows outline entry usedKeys permuted
  constructor
  · have first := congrArg (List.map Prod.fst) same
    rw [List.map_map, List.map_map] at first
    rw [resources, otherResources]
    exact first
  · rw [members, otherMembers, allMembers_eq, allMembers_eq, same]

private theorem exists_declared? {declared : Global} (usedKeys : List InterfaceKey)
    (traced : findGlobal? outline entry one = some declared) :
    ∃ row, declared? outline entry usedKeys one = some row := by
  obtain ⟨resource, declares⟩ := exists_resource?_of_traced traced (hasKeyIn usedKeys one)
  exact ⟨(one, resource), declared?_eq_some_iff.mpr ⟨rfl, traced ▸ declares⟩⟩

private theorem tied_of_isFor {id : UInt32} (h : isFor outline entry id one = true)
    (k : isFor outline entry id other = true) : Tied outline entry one other := by
  obtain ⟨_, traced, rfl⟩ := isFor_iff.mp h
  obtain ⟨_, otherTraced, same⟩ := isFor_iff.mp k
  rw [Tied, traced, otherTraced, Option.map_some, Option.map_some, same]

/-- Where ties agree, the first variable for an id may be any of those for it. -/
private theorem TiesAgree.firstFor? (agree : TiesAgree outline entry usedKeys found)
    (perm : found.Perm permuted) (id : UInt32) :
    ((Listing.firstFor? outline entry found id).bind (declared? outline entry usedKeys)).map
        (content outline) =
      ((Listing.firstFor? outline entry permuted id).bind (declared? outline entry usedKeys)).map
        (content outline) := by
  cases first : Listing.firstFor? outline entry found id with
  | none =>
    have none : Listing.firstFor? outline entry permuted id = none := by
      rw [Listing.firstFor?, List.find?_eq_none] at first ⊢
      exact fun resolved mem => first resolved (perm.mem_iff.mpr mem)
    rw [none]
  | some one =>
    have mem := List.mem_of_find?_eq_some first
    have own := List.find?_some first
    obtain ⟨other, otherMem, otherFirst, otherOwn⟩ :=
      exists_firstFor?_of_isFor (perm.mem_iff.mp mem) own
    obtain ⟨_, traced, _⟩ := isFor_iff.mp own
    obtain ⟨_, otherTraced, _⟩ := isFor_iff.mp otherOwn
    obtain ⟨row, declares⟩ := exists_declared? usedKeys traced
    obtain ⟨otherRow, otherDeclares⟩ := exists_declared? usedKeys otherTraced
    have same := agree one mem other (perm.mem_iff.mpr otherMem) (tied_of_isFor own otherOwn) row
      declares otherRow otherDeclares
    rw [otherFirst, Option.bind_some, Option.bind_some, declares, otherDeclares, Option.map_some,
      Option.map_some, same]

private theorem TiesAgree.untracedRows (agree : TiesAgree outline entry usedKeys found)
    (perm : found.Perm permuted) :
    (Listing.untracedRows outline entry usedKeys found).map (content outline) =
      (Listing.untracedRows outline entry usedKeys permuted).map (content outline) := by
  have permRows : (Listing.untracedRows outline entry usedKeys found).Perm
      (Listing.untracedRows outline entry usedKeys permuted) :=
    (perm.filter _).filterMap _
  have equal : ∀ row ∈ Listing.untracedRows outline entry usedKeys found,
      ∀ otherRow ∈ Listing.untracedRows outline entry usedKeys found,
        content outline row = content outline otherRow := by
    rintro ⟨one, resource⟩ mem ⟨other, otherResource⟩ otherMem
    obtain ⟨known, untraced, declares⟩ := mem_untracedRows_iff.mp mem
    obtain ⟨otherKnown, otherUntraced, otherDeclares⟩ := mem_untracedRows_iff.mp otherMem
    refine agree one known other otherKnown (by rw [Tied, untraced, otherUntraced]) _ ?_ _ ?_
    · exact declared?_eq_some_iff.mpr ⟨rfl, untraced ▸ declares⟩
    · exact declared?_eq_some_iff.mpr ⟨rfl, otherUntraced ▸ otherDeclares⟩
  have constant : ((Listing.untracedRows outline entry usedKeys found).map
      (content outline)).Pairwise (· = ·) :=
    List.pairwise_map.mpr (List.pairwise_of_forall_mem_list equal)
  have mapped := permRows.map (content outline)
  exact mapped.eq_of_pairwise (fun _ _ _ _ same _ => same) constant
    ((mapped.pairwise_iff fun same => same.symm).mp constant)

private theorem TiesAgree.rows (agree : TiesAgree outline entry usedKeys found)
    (perm : found.Perm permuted) :
    (Listing.rows outline entry usedKeys found).map (content outline) =
      (Listing.rows outline entry usedKeys permuted).map (content outline) := by
  rw [rows_eq, rows_eq, List.map_append, List.map_append, agree.untracedRows perm, tracedRows,
    tracedRows, List.map_filterMap, List.map_filterMap]
  congr 1
  exact congrArg (List.filterMap · outline.globalIds) (funext (agree.firstFor? perm))

private theorem content_eq_of_list_eq {position : Nat}
    (resources : (list outline entry usedKeys found).resources =
      (list outline entry usedKeys permuted).resources)
    (members : (list outline entry usedKeys found).members =
      (list outline entry usedKeys permuted).members)
    (here : (rows outline entry usedKeys found)[position]? = some row)
    (there : (rows outline entry usedKeys permuted)[position]? = some otherRow) :
    content outline row = content outline otherRow := by
  rw [(list_rows outline entry usedKeys found).1, (list_rows outline entry usedKeys permuted).1]
    at resources
  rw [(list_rows outline entry usedKeys found).2, (list_rows outline entry usedKeys permuted).2]
    at members
  refine (content_eq_iff position).mpr ⟨?_, ?_⟩
  · have same := congrArg (·[position]?) resources
    simp only [List.getElem?_map, here, there, Option.map_some] at same
    exact Option.some.inj same
  · rw [← filter_allMembers here, ← filter_allMembers there, members]

/-- Of two variables for one id, the one in front has the row. -/
private theorem exists_position_traced {declared otherDeclared : Global}
    (traced : findGlobal? outline entry one = some declared)
    (otherTraced : findGlobal? outline entry other = some otherDeclared)
    (same : declared.id = otherDeclared.id)
    (declares : declared? outline entry usedKeys one = some row)
    (otherDeclares : declared? outline entry usedKeys other = some otherRow) :
    ∃ position : Nat, (rows outline entry usedKeys (one :: other :: rest))[position]? = some row ∧
      (rows outline entry usedKeys (other :: one :: rest))[position]? = some otherRow := by
  have known := Outline.mem_globalIds_iff.mpr ⟨declared, mem_of_findGlobal? traced, rfl⟩
  obtain ⟨front, back, split⟩ := List.append_of_mem known
  have fresh : ∀ id ∈ front, id ≠ declared.id := by
    have distinct : outline.globalIds.Nodup := Outline.nodup_globalIds
    rw [split] at distinct
    exact fun id mem => (List.nodup_append.mp distinct).2.2 id mem _ List.mem_cons_self
  have own : isFor outline entry declared.id one = true := isFor_iff.mpr ⟨_, traced, rfl⟩
  have otherOwn : isFor outline entry declared.id other = true :=
    isFor_iff.mpr ⟨_, otherTraced, same.symm⟩
  -- In front of the id neither of the two is the first for anything.
  have passes {first second : Resolved} (one : isFor outline entry declared.id first = true)
      (two : isFor outline entry declared.id second = true) :
      front.filterMap (fun id => (firstFor? outline entry (first :: second :: rest) id).bind
          (declared? outline entry usedKeys)) =
        front.filterMap (fun id => (firstFor? outline entry rest id).bind
          (declared? outline entry usedKeys)) := by
    refine List.filterMap_congr fun id mem => ?_
    obtain ⟨_, traced, same⟩ := isFor_iff.mp one
    obtain ⟨_, otherTraced, otherSame⟩ := isFor_iff.mp two
    have apart := fresh id mem
    rw [firstFor?, List.find?_cons_of_neg, List.find?_cons_of_neg, firstFor?]
    · simpa [isFor, otherTraced, otherSame] using apart.symm
    · simpa [isFor, traced, same] using apart.symm
  refine ⟨(front.filterMap (fun id => (firstFor? outline entry rest id).bind
    (declared? outline entry usedKeys))).length, ?_, ?_⟩
  · rw [rows_eq, tracedRows, split, List.filterMap_append, passes own otherOwn]
    simp [firstFor?, own, declares]
  · rw [rows_eq, tracedRows, split, List.filterMap_append, passes otherOwn own]
    simp [firstFor?, otherOwn, otherDeclares]

private theorem exists_position_untraced
    (untraced : findGlobal? outline entry one = none)
    (otherUntraced : findGlobal? outline entry other = none)
    (declares : declared? outline entry usedKeys one = some row)
    (otherDeclares : declared? outline entry usedKeys other = some otherRow) :
    ∃ position : Nat, (rows outline entry usedKeys (one :: other :: rest))[position]? = some row ∧
      (rows outline entry usedKeys (other :: one :: rest))[position]? = some otherRow := by
  have passes {first second : Resolved} (one : findGlobal? outline entry first = none)
      (two : findGlobal? outline entry second = none) :
      tracedRows outline entry usedKeys (first :: second :: rest) =
        tracedRows outline entry usedKeys rest := by
    simp [tracedRows, firstFor?, isFor, one, two]
  refine ⟨(tracedRows outline entry usedKeys rest).length, ?_, ?_⟩
  · rw [rows_eq, passes untraced otherUntraced]
    simp [untracedRows, untraced, otherUntraced, declares, otherDeclares]
  · rw [rows_eq, passes otherUntraced untraced]
    simp [untracedRows, untraced, otherUntraced, declares, otherDeclares]

/-- The order of resolved variables does not matter just if those that come to the same place list
the same. -/
theorem list_perm_iff (outline : Outline) (entry : EntryPoint) (usedKeys : List InterfaceKey)
    (found : List Resolved) :
    (∀ permuted, found.Perm permuted →
      (list outline entry usedKeys found).resources =
          (list outline entry usedKeys permuted).resources ∧
        (list outline entry usedKeys found).members =
          (list outline entry usedKeys permuted).members) ↔
      TiesAgree outline entry usedKeys found := by
  constructor
  · intro same one mem other otherMem tied row declares otherRow otherDeclares
    by_cases equal : one = other
    · subst equal
      rw [Option.some.inj (declares.symm.trans otherDeclares)]
    -- With the two in front, in either order, the rows differ at one position at most.
    · have inRest : other ∈ found.erase one := (List.mem_erase_of_ne (Ne.symm equal)).mpr otherMem
      have front : found.Perm (one :: other :: (found.erase one).erase other) :=
        (List.perm_cons_erase mem).trans ((List.perm_cons_erase inRest).cons one)
      have swapped := front.trans (List.Perm.swap other one _)
      obtain ⟨resources, members⟩ := same _ front
      obtain ⟨otherResources, otherMembers⟩ := same _ swapped
      obtain ⟨position, here, there⟩ : ∃ position : Nat,
          (rows outline entry usedKeys
            (one :: other :: (found.erase one).erase other))[position]? = some row ∧
          (rows outline entry usedKeys
            (other :: one :: (found.erase one).erase other))[position]? = some otherRow := by
        cases traced : findGlobal? outline entry one with
        | none =>
          have otherTraced : findGlobal? outline entry other = none := by
            simpa [Tied, traced] using tied.symm
          exact exists_position_untraced traced otherTraced declares otherDeclares
        | some declared =>
          obtain ⟨otherDeclared, otherTraced, sameId⟩ : ∃ otherDeclared,
              findGlobal? outline entry other = some otherDeclared ∧
                otherDeclared.id = declared.id := by
            simpa [Tied, traced] using tied.symm
          exact exists_position_traced traced otherTraced sameId.symm declares otherDeclares
      exact content_eq_of_list_eq (resources.symm.trans otherResources)
        (members.symm.trans otherMembers) here there
  · intro agree permuted perm
    exact list_eq_of_content (agree.rows perm)

/-- The two inputs of one place, in both orders: the first of them counts. -/
theorem list_reverse_twoInputs :
    secondInputs.declared.Perm secondInputs.declared.reverse ∧
      (list twoInputsOutline secondInputEntry (Spirv.usedKeys secondInputs)
          secondInputs.declared).resources.map (fun resource => (resource.name, resource.size)) =
        [("", 16)] ∧
      (list twoInputsOutline secondInputEntry (Spirv.usedKeys secondInputs)
          secondInputs.declared.reverse).resources.map
          (fun resource => (resource.name, resource.size)) =
        [("uv", 8)] := by
  refine ⟨(List.reverse_perm _).symm, ?_, ?_⟩
  all_goals decide +kernel

end Listing

end ShaderInterface.Spirv
