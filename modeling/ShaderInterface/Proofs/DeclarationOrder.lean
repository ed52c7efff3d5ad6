import Mathlib.Data.List.Nodup
import ShaderInterface.Proofs.InterfaceListing

/-! The rows of a listing without its fold. For each id that the outline declares, in order, there
is the first resolved variable that is taken for it; behind these come the variables that are taken
for none. So the order of resolved variables matters only where it decides which of them is
first. -/
namespace ShaderInterface.Spirv

namespace Outline

def firstAt? (outline : Outline) (position : Nat) : Option UInt32 :=
  (outline.globals[position]?.map (·.id)).filter fun id => outline.position? id == some position

/-- The ids of the variables of module scope, each where it is declared first. -/
def globalIds (outline : Outline) : List UInt32 :=
  (List.range outline.globals.length).filterMap outline.firstAt?

variable {outline : Outline}

theorem exists_of_position? {id : UInt32} {position : Nat}
    (h : outline.position? id = some position) :
    ∃ declared, outline.globals[position]? = some declared ∧ declared.id = id := by
  obtain ⟨inside, same, _⟩ := List.findIdx?_eq_some_iff_getElem.mp h
  exact ⟨_, List.getElem?_eq_getElem inside, beq_iff_eq.mp same⟩

theorem exists_position? {declared : Global} (mem : declared ∈ outline.globals) :
    ∃ position, outline.position? declared.id = some position := by
  have known : (outline.position? declared.id).isSome := by
    rw [position?, List.findIdx?_isSome, List.any_eq_true]
    exact ⟨declared, mem, beq_self_eq_true _⟩
  exact Option.isSome_iff_exists.mp known

theorem position?_lt {id : UInt32} {position : Nat} (h : outline.position? id = some position) :
    position < outline.globals.length := by
  obtain ⟨_, here, _⟩ := exists_of_position? h
  exact (List.getElem?_eq_some_iff.mp here).1

theorem firstAt?_eq_some_iff {id : UInt32} {position : Nat} :
    outline.firstAt? position = some id ↔ outline.position? id = some position := by
  rw [firstAt?, Option.filter_eq_some_iff, beq_iff_eq, Option.map_eq_some_iff]
  constructor
  · exact fun h => h.2
  · intro h
    obtain ⟨declared, here, same⟩ := exists_of_position? h
    exact ⟨⟨declared, here, same⟩, h⟩

theorem mem_globalIds_iff {id : UInt32} :
    id ∈ outline.globalIds ↔ ∃ declared ∈ outline.globals, declared.id = id := by
  simp only [globalIds, List.mem_filterMap, firstAt?_eq_some_iff, List.mem_range]
  constructor
  · rintro ⟨position, _, h⟩
    obtain ⟨declared, here, same⟩ := exists_of_position? h
    exact ⟨declared, List.mem_of_getElem? here, same⟩
  · rintro ⟨declared, mem, rfl⟩
    obtain ⟨position, h⟩ := exists_position? mem
    exact ⟨position, position?_lt h, h⟩

def Precedes (outline : Outline) (one other : UInt32) : Prop :=
  ∃ i j, outline.position? one = some i ∧ outline.position? other = some j ∧ i < j

theorem Precedes.ne {one other : UInt32} (h : outline.Precedes one other) : one ≠ other := by
  rintro rfl
  obtain ⟨i, j, first, second, less⟩ := h
  exact Nat.ne_of_lt less (Option.some.inj (first.symm.trans second))

theorem pairwise_globalIds : outline.globalIds.Pairwise outline.Precedes := by
  rw [globalIds, List.pairwise_filterMap]
  refine List.pairwise_lt_range.imp fun {i j} less one first other second => ?_
  exact ⟨i, j, firstAt?_eq_some_iff.mp first, firstAt?_eq_some_iff.mp second, less⟩

theorem nodup_globalIds : outline.globalIds.Nodup :=
  pairwise_globalIds.imp Precedes.ne

end Outline

namespace Listing

variable {outline : Outline} {entry : EntryPoint} {found : List Resolved}
  {before : List (Option Global × Resolved)}

theorem mem_pushConstants_of_findGlobal? {name : Option String} {type : Ty} {declared : Global}
    (h : findGlobal? outline entry (.pushConstant name type) = some declared) :
    declared ∈ outline.pushConstants := by
  simp only [findGlobal?, Outline.pushConstant?, Option.or_eq_some_iff,
    Option.bind_eq_some_iff] at h
  rcases h with ((⟨_, _, found⟩ | ⟨_, _, _, found⟩) | ⟨_, found⟩) | ⟨_, found⟩
  · exact List.mem_of_find?_eq_some found
  · exact List.mem_of_find?_eq_some found
  · exact List.mem_of_find?_eq_some found
  · exact List.mem_of_head? found

theorem mem_of_findGlobal? {resolved : Resolved} {declared : Global}
    (h : findGlobal? outline entry resolved = some declared) : declared ∈ outline.globals := by
  cases resolved with
  | descriptor _ set slot _ type _ =>
    rcases Option.or_eq_some_iff.mp h with matching | ⟨_, first⟩
    · exact List.mem_of_mem_filter (List.mem_of_find?_eq_some matching)
    · exact List.mem_of_mem_filter (List.mem_of_head? first)
  | input | output => exact List.mem_of_find?_eq_some h
  | pushConstant name type => exact List.mem_of_mem_filter (mem_pushConstants_of_findGlobal? h)
  | specConstant => cases h

/-- A resolved variable has the storage class that the variable it stands for is declared with. -/
def Fits (resolved : Resolved) (declared : Global) : Prop :=
  match resolved with
  | .descriptor .. => Outline.isDescriptor declared = true
  | .pushConstant .. => declared.storage = .pushConstant
  | .input .. => declared.storage = .input
  | .output .. => declared.storage = .output
  | .specConstant .. => False

theorem fits_of_findGlobal? {resolved : Resolved} {declared : Global}
    (h : findGlobal? outline entry resolved = some declared) : Fits resolved declared := by
  cases resolved with
  | descriptor =>
    rcases Option.or_eq_some_iff.mp h with matching | ⟨_, first⟩
    · have kept := (List.mem_filter.mp (List.mem_of_find?_eq_some matching)).2
      exact (Bool.and_eq_true_iff.mp kept).1
    · have kept := (List.mem_filter.mp (List.mem_of_head? first)).2
      exact (Bool.and_eq_true_iff.mp kept).1
  | input | output =>
    have kept := List.find?_some h
    simp only [Bool.and_eq_true, beq_iff_eq] at kept
    exact kept.1.1.1.1
  | pushConstant =>
    exact beq_iff_eq.mp (List.mem_filter.mp (mem_pushConstants_of_findGlobal? h)).2
  | specConstant => cases h

def isFor (outline : Outline) (entry : EntryPoint) (id : UInt32) (resolved : Resolved) : Bool :=
  (findGlobal? outline entry resolved).any (·.id == id)

/-- The first resolved variable that is taken for a variable of an id. -/
def firstFor? (outline : Outline) (entry : EntryPoint) (found : List Resolved) (id : UInt32) :
    Option Resolved :=
  found.find? (isFor outline entry id)

def declared? (outline : Outline) (entry : EntryPoint) (usedKeys : List InterfaceKey)
    (resolved : Resolved) : Option (Resolved × Declared.Resource) :=
  row? outline (hasKeyIn usedKeys) (findGlobal? outline entry resolved, resolved)

/-- The rows of variables that are traced back, in the order of declaration. -/
def tracedRows (outline : Outline) (entry : EntryPoint) (usedKeys : List InterfaceKey)
    (found : List Resolved) : List (Resolved × Declared.Resource) :=
  outline.globalIds.filterMap fun id =>
    (firstFor? outline entry found id).bind (declared? outline entry usedKeys)

/-- The rows of variables that are traced back to none, in the order given. -/
def untracedRows (outline : Outline) (entry : EntryPoint) (usedKeys : List InterfaceKey)
    (found : List Resolved) : List (Resolved × Declared.Resource) :=
  (found.filter fun resolved => (findGlobal? outline entry resolved).isNone).filterMap
    (declared? outline entry usedKeys)

section Untaken

variable {traced : List (Option Global × Resolved)} {id : UInt32}

/-- Whether a traced variable stands for a variable of an id. -/
private def standsFor (id : UInt32) (item : Option Global × Resolved) : Bool :=
  item.1.any (·.id == id)

private theorem isTaken_of_standsFor {item : Option Global × Resolved}
    (h : standsFor id item = true) : isTaken before item.1 = before.any (standsFor id) := by
  obtain ⟨declared, standing, same⟩ := (Option.any_eq_true _ _).mp h
  rw [standing, isTaken, Option.any_some, beq_iff_eq.mp same]
  rfl

private theorem untaken_of_none (h : ∀ item ∈ traced, item.1 = none) :
    untaken before traced = traced := by
  induction traced generalizing before with
  | nil => rfl
  | cons item after ih =>
    rw [untaken, ih fun other mem => h other (List.mem_cons_of_mem item mem),
      h item List.mem_cons_self]
    rfl

private theorem untaken_of_taken (taken : before.any (standsFor id) = true)
    (h : ∀ item ∈ traced, standsFor id item = true) : untaken before traced = [] := by
  induction traced generalizing before with
  | nil => rfl
  | cons item after ih =>
    have still : (before ++ [item]).any (standsFor id) = true := by rw [List.any_append, taken]; rfl
    rw [untaken, isTaken_of_standsFor (h item List.mem_cons_self), taken,
      ih still fun other mem => h other (List.mem_cons_of_mem item mem)]
    rfl

private theorem untaken_of_standsFor (free : before.any (standsFor id) = false)
    (h : ∀ item ∈ traced, standsFor id item = true) :
    untaken before traced = traced.head?.toList := by
  cases traced with
  | nil => rfl
  | cons item after =>
    have own := h item List.mem_cons_self
    have taken : (before ++ [item]).any (standsFor id) = true := by simp [own]
    rw [untaken, isTaken_of_standsFor own, free,
      untaken_of_taken taken fun other mem => h other (List.mem_cons_of_mem item mem)]
    rfl

/-- Variables gathered by the ids they stand for: the first of each id is untaken. -/
private theorem untaken_flatMap {ids : List UInt32} (distinct : ids.Nodup)
    (free : ∀ id ∈ ids, before.any (standsFor id) = false) :
    untaken before (ids.flatMap fun id => traced.filter (standsFor id)) =
      ids.filterMap fun id => traced.find? (standsFor id) := by
  induction ids generalizing before with
  | nil => rfl
  | cons id ids ih =>
    obtain ⟨fresh, distinct⟩ := List.nodup_cons.mp distinct
    have own : ∀ item ∈ traced.filter (standsFor id), standsFor id item = true :=
      fun item mem => (List.mem_filter.mp mem).2
    have later : ∀ other ∈ ids,
        (before ++ traced.filter (standsFor id)).any (standsFor other) = false := by
      intro other mem
      rw [List.any_append, free other (List.mem_cons_of_mem id mem), Bool.false_or,
        List.any_eq_false]
      intro item filtered same
      obtain ⟨declared, standing, here⟩ := (Option.any_eq_true _ _).mp (own item filtered)
      rw [standsFor, standing, Option.any_some, beq_iff_eq] at same
      exact fresh (((beq_iff_eq.mp here).symm.trans same) ▸ mem)
    rw [List.flatMap_cons, untaken_append, ih distinct later,
      untaken_of_standsFor (free id List.mem_cons_self) own, List.head?_filter,
      List.filterMap_cons]
    cases traced.find? (standsFor id) <;> rfl

end Untaken

private def items (outline : Outline) (entry : EntryPoint) (found : List Resolved) :
    List (Option Global × Resolved) :=
  found.map fun resolved => (findGlobal? outline entry resolved, resolved)

private theorem rank_eq_iff {item : Option Global × Resolved} {position : Nat}
    (mem : item ∈ items outline entry found) (inside : position < outline.globals.length) :
    rank outline item = position ↔
      ∃ id, outline.firstAt? position = some id ∧ standsFor id item = true := by
  obtain ⟨resolved, _, rfl⟩ := List.mem_map.mp mem
  simp only [standsFor, Outline.firstAt?_eq_some_iff, Option.any_eq_true, beq_iff_eq]
  rw [rank]
  cases traced : findGlobal? outline entry resolved with
  | none => simpa using Nat.ne_of_gt inside
  | some declared =>
    obtain ⟨own, here⟩ := Outline.exists_position? (mem_of_findGlobal? traced)
    simp [here]

private theorem rank_eq_length_iff {item : Option Global × Resolved}
    (mem : item ∈ items outline entry found) :
    rank outline item = outline.globals.length ↔ item.1 = none := by
  obtain ⟨resolved, _, rfl⟩ := List.mem_map.mp mem
  rw [rank]
  cases traced : findGlobal? outline entry resolved with
  | none => simp
  | some declared =>
    obtain ⟨own, here⟩ := Outline.exists_position? (mem_of_findGlobal? traced)
    simpa [here] using Nat.ne_of_lt (Outline.position?_lt here)

private theorem rank_le {item : Option Global × Resolved} :
    rank outline item ≤ outline.globals.length := by
  rw [rank]
  split
  · rename_i position here
    obtain ⟨declared, _, known⟩ := Option.bind_eq_some_iff.mp here
    exact Nat.le_of_lt (Outline.position?_lt known)
  · exact Nat.le_refl _

private theorem trace_eq : trace outline entry found =
    (outline.globalIds.flatMap fun id => (items outline entry found).filter (standsFor id)) ++
      (items outline entry found).filter (·.1.isNone) := by
  show Sorting.sortByRank (rank outline) (items outline entry found) = _
  rw [Sorting.sortByRank_eq_flatMap fun item _ => Nat.lt_succ_of_le rank_le, List.range_succ,
    List.flatMap_append, List.flatMap_singleton, Outline.globalIds,
    List.filterMap_eq_flatMap_toList, List.flatMap_assoc]
  congr 1
  · refine List.flatMap_congr fun position known => ?_
    have inside := List.mem_range.mp known
    cases first : outline.firstAt? position with
    | none =>
      simp only [Option.toList_none, List.flatMap_nil, List.filter_eq_nil_iff, beq_iff_eq]
      intro item mem same
      obtain ⟨id, here, _⟩ := (rank_eq_iff mem inside).mp same
      exact Option.some_ne_none id (here.symm.trans first)
    | some id =>
      simp only [Option.toList_some, List.flatMap_singleton]
      refine List.filter_congr fun item mem => ?_
      rw [Bool.eq_iff_iff, beq_iff_eq, rank_eq_iff mem inside]
      simp [first]
  · refine List.filter_congr fun item mem => ?_
    rw [Bool.eq_iff_iff, beq_iff_eq, rank_eq_length_iff mem, Option.isNone_iff_eq_none]

/-- The rows of an interface: for each declared id the first variable that is taken for it, then the
variables that are taken for none. -/
theorem rows_eq (outline : Outline) (entry : EntryPoint) (usedKeys : List InterfaceKey)
    (found : List Resolved) :
    rows outline entry usedKeys found =
      tracedRows outline entry usedKeys found ++ untracedRows outline entry usedKeys found := by
  have untraced : ∀ item ∈ (items outline entry found).filter (·.1.isNone), item.1 = none :=
    fun item mem => Option.isNone_iff_eq_none.mp (List.mem_filter.mp mem).2
  rw [rows, trace_eq, untaken_append, untaken_of_none untraced,
    untaken_flatMap Outline.nodup_globalIds fun _ _ => rfl, List.filterMap_append,
    List.filterMap_filterMap]
  congr 1
  · refine congrArg (List.filterMap · outline.globalIds) (funext fun id => ?_)
    rw [items, List.find?_map, Option.bind_map]
    rfl
  · rw [items, List.filter_map, List.filterMap_map]
    rfl

section Rows

variable {usedKeys : List InterfaceKey} {resolved : Resolved} {resource : Declared.Resource}

theorem isFor_iff {id : UInt32} : isFor outline entry id resolved = true ↔
    ∃ declared, findGlobal? outline entry resolved = some declared ∧ declared.id = id := by
  rw [isFor, Option.any_eq_true]
  simp only [beq_iff_eq]

theorem exists_firstFor?_of_isFor {id : UInt32} (mem : resolved ∈ found)
    (own : isFor outline entry id resolved = true) :
    ∃ first ∈ found, firstFor? outline entry found id = some first ∧
      isFor outline entry id first = true := by
  have some : (firstFor? outline entry found id).isSome := by
    rw [firstFor?, List.find?_isSome]
    exact ⟨resolved, mem, own⟩
  obtain ⟨first, here⟩ := Option.isSome_iff_exists.mp some
  exact ⟨first, List.mem_of_find?_eq_some here, here, List.find?_some here⟩

theorem exists_firstFor?_of_nodup {declared : Global}
    (distinct : (outline.globals.map (·.id)).Nodup) (mem : resolved ∈ found)
    (traced : findGlobal? outline entry resolved = some declared) :
    ∃ first ∈ found, firstFor? outline entry found declared.id = some first ∧
      findGlobal? outline entry first = some declared := by
  obtain ⟨first, known, here, own⟩ :=
    exists_firstFor?_of_isFor mem (isFor_iff.mpr ⟨declared, traced, rfl⟩)
  obtain ⟨standing, firstTraced, same⟩ := isFor_iff.mp own
  obtain rfl : standing = declared :=
    List.inj_on_of_nodup_map distinct (mem_of_findGlobal? firstTraced) (mem_of_findGlobal? traced)
      same
  exact ⟨first, known, here, firstTraced⟩

theorem declared?_eq_some_iff {row : Resolved × Declared.Resource} :
    declared? outline entry usedKeys resolved = some row ↔
      row.1 = resolved ∧ resource? outline (findGlobal? outline entry resolved)
        (hasKeyIn usedKeys resolved) resolved = some row.2 := by
  obtain ⟨other, resource⟩ := row
  rw [declared?, row?, own?, Option.map_eq_some_iff]
  constructor
  · rintro ⟨_, declares, same⟩
    cases same
    exact ⟨rfl, declares⟩
  · rintro ⟨rfl, declares⟩
    exact ⟨resource, declares, rfl⟩

theorem mem_tracedRows_iff : (resolved, resource) ∈ tracedRows outline entry usedKeys found ↔
    ∃ declared, findGlobal? outline entry resolved = some declared ∧
      firstFor? outline entry found declared.id = some resolved ∧
        resource? outline (some declared) (hasKeyIn usedKeys resolved) resolved =
          some resource := by
  simp only [tracedRows, List.mem_filterMap, Option.bind_eq_some_iff, declared?_eq_some_iff]
  constructor
  · rintro ⟨id, _, _, first, rfl, declares⟩
    obtain ⟨declared, traced, rfl⟩ := isFor_iff.mp (List.find?_some first)
    exact ⟨declared, traced, first, traced ▸ declares⟩
  · rintro ⟨declared, traced, first, declares⟩
    have known := Outline.mem_globalIds_iff.mpr ⟨declared, mem_of_findGlobal? traced, rfl⟩
    exact ⟨declared.id, known, resolved, first, rfl, by rw [traced]; exact declares⟩

theorem mem_untracedRows_iff : (resolved, resource) ∈ untracedRows outline entry usedKeys found ↔
    resolved ∈ found ∧ findGlobal? outline entry resolved = none ∧
      resource? outline none (hasKeyIn usedKeys resolved) resolved = some resource := by
  simp only [untracedRows, List.mem_filterMap, List.mem_filter, Option.isNone_iff_eq_none,
    declared?_eq_some_iff]
  constructor
  · rintro ⟨_, ⟨mem, untraced⟩, rfl, declares⟩
    exact ⟨mem, untraced, untraced ▸ declares⟩
  · rintro ⟨mem, untraced, declares⟩
    exact ⟨resolved, ⟨mem, untraced⟩, rfl, by rw [untraced]; exact declares⟩

/-- The ids of traced rows are declared one after the other. -/
theorem pairwise_tracedRows : (tracedRows outline entry usedKeys found).Pairwise
    fun one other => outline.Precedes one.2.ids.id other.2.ids.id := by
  have idOf {id : UInt32} {row : Resolved × Declared.Resource}
      (h : (firstFor? outline entry found id).bind (declared? outline entry usedKeys) = some row) :
      row.2.ids.id = id := by
    obtain ⟨resolved, first, declares⟩ := Option.bind_eq_some_iff.mp h
    obtain ⟨declared, traced, rfl⟩ := isFor_iff.mp (List.find?_some first)
    rw [resource?_ids (declared?_eq_some_iff.mp declares).2, traced]
    rfl
  rw [tracedRows, List.pairwise_filterMap]
  refine Outline.pairwise_globalIds.imp fun precedes one first other second => ?_
  rw [idOf first, idOf second]
  exact precedes

theorem mem_rows_iff_of_traced {declared : Global}
    (traced : findGlobal? outline entry resolved = some declared) :
    (resolved, resource) ∈ rows outline entry usedKeys found ↔
      firstFor? outline entry found declared.id = some resolved ∧
        resource? outline (some declared) (hasKeyIn usedKeys resolved) resolved =
          some resource := by
  rw [rows_eq, List.mem_append, mem_tracedRows_iff, mem_untracedRows_iff, traced]
  simp

theorem exists_resource?_of_traced {declared : Global}
    (traced : findGlobal? outline entry resolved = some declared) (used : Bool) :
    ∃ resource, resource? outline (some declared) used resolved = some resource := by
  cases resolved with
  | specConstant => cases traced
  | _ => exact ⟨_, rfl⟩

theorem exists_row_of_firstFor? {id : UInt32} (usedKeys : List InterfaceKey)
    (first : firstFor? outline entry found id = some resolved) :
    ∃ declared resource, findGlobal? outline entry resolved = some declared ∧ declared.id = id ∧
      (resolved, resource) ∈ rows outline entry usedKeys found ∧ resource.ids.id = id ∧
        resource? outline (some declared) (hasKeyIn usedKeys resolved) resolved =
          some resource := by
  obtain ⟨declared, traced, rfl⟩ := isFor_iff.mp (List.find?_some first)
  obtain ⟨resource, declares⟩ := exists_resource?_of_traced traced (hasKeyIn usedKeys resolved)
  refine ⟨declared, resource, traced, rfl,
    (mem_rows_iff_of_traced traced).mpr ⟨first, declares⟩, ?_, declares⟩
  rw [resource?_ids declares]
  rfl

private theorem eq_singleton {resources : List Declared.Resource}
    (distinct : resources.Pairwise (·.ids.id ≠ ·.ids.id)) (mem : resource ∈ resources)
    (same : ∀ other ∈ resources, other.ids.id = resource.ids.id) : resources = [resource] := by
  match resources with
  | [] => cases mem
  | [one] => rw [List.mem_singleton.mp mem]
  | one :: other :: _ =>
    refine absurd ?_ ((List.pairwise_cons.mp distinct).1 other List.mem_cons_self)
    rw [same one List.mem_cons_self, same other (List.mem_cons_of_mem one List.mem_cons_self)]

theorem filter_rows_eq_singleton (id : UInt32) {row : Resolved × Declared.Resource}
    {select : Declared.Resource → Bool} (mem : row ∈ rows outline entry usedKeys found)
    (selected : select row.2 = true)
    (only : ∀ other ∈ rows outline entry usedKeys found, select other.2 = true →
      isFor outline entry id other.1 = true) :
    ((rows outline entry usedKeys found).map Prod.snd).filter select = [row.2] := by
  rw [rows_eq] at mem only ⊢
  -- Only traced rows are selected; they have different ids, and all of them have this one.
  have untraced :
      ((untracedRows outline entry usedKeys found).map Prod.snd).filter select = [] := by
    rw [List.filter_eq_nil_iff]
    intro resource listed chosen
    obtain ⟨other, known, rfl⟩ := List.mem_map.mp listed
    obtain ⟨declared, traced, _⟩ := isFor_iff.mp (only other (List.mem_append_right _ known) chosen)
    exact Option.some_ne_none declared (traced.symm.trans (mem_untracedRows_iff.mp known).2.1)
  have distinct : ((tracedRows outline entry usedKeys found).map Prod.snd).Pairwise
      (·.ids.id ≠ ·.ids.id) :=
    List.pairwise_map.mpr (pairwise_tracedRows.imp Outline.Precedes.ne)
  have idOf : ∀ resource ∈ ((tracedRows outline entry usedKeys found).map Prod.snd).filter select,
      resource.ids.id = id := by
    intro resource listed
    obtain ⟨listed, chosen⟩ := List.mem_filter.mp listed
    obtain ⟨other, known, rfl⟩ := List.mem_map.mp listed
    obtain ⟨declared, traced, _, declares⟩ := mem_tracedRows_iff.mp known
    obtain ⟨_, here, same⟩ := isFor_iff.mp (only other (List.mem_append_left _ known) chosen)
    obtain rfl := Option.some.inj (traced.symm.trans here)
    rw [resource?_ids declares]
    exact same
  have own : row.2 ∈ ((tracedRows outline entry usedKeys found).map Prod.snd).filter select := by
    have listed := List.mem_filter.mpr ⟨List.mem_map_of_mem mem, selected⟩
    rw [List.map_append, List.filter_append, untraced, List.append_nil] at listed
    exact listed
  rw [List.map_append, List.filter_append, untraced, List.append_nil]
  exact eq_singleton (distinct.filter select) own fun other listed =>
    (idOf other listed).trans (idOf row.2 own).symm

end Rows

end Listing

end ShaderInterface.Spirv
