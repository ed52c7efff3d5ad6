import ShaderInterface.Proofs.RankSorting
import ShaderInterface.Spirv.Backend

/-! What is listed of an interface. A resolved variable yields its resource unless one before it in
the trace stands for the same variable of the outline, and then it yields none. So descriptors that
cannot be told apart by slot and category hide each other. -/
namespace ShaderInterface.Spirv

namespace Listing

def declaredKind? : Resolved → Option Declared.Kind
  | .descriptor _ _ _ binding _ _ => some (kindOf binding)
  | .pushConstant .. => some .pushConstant
  | .input .. => some .stageInput
  | .output .. => some .stageOutput
  | .specConstant .. => none

section Declares

variable {outline : Outline} {standing : Option Global} {used : Bool} {resolved : Resolved}
  {resource : Declared.Resource}

private theorem resource?_facts (h : resource? outline standing used resolved = some resource) :
    resource.used = used ∧ resource.ids = idsOf outline standing ∧
      declaredKind? resolved = some resource.kind := by
  cases resolved with
  | descriptor | pushConstant =>
    cases h
    exact ⟨rfl, rfl, rfl⟩
  | input | output =>
    obtain ⟨_, _, rfl⟩ := Option.map_eq_some_iff.mp h
    exact ⟨rfl, rfl, rfl⟩
  | specConstant => cases h

theorem resource?_used (h : resource? outline standing used resolved = some resource) :
    resource.used = used :=
  (resource?_facts h).1

theorem resource?_ids (h : resource? outline standing used resolved = some resource) :
    resource.ids = idsOf outline standing :=
  (resource?_facts h).2.1

theorem resource?_kind (h : resource? outline standing used resolved = some resource) :
    declaredKind? resolved = some resource.kind :=
  (resource?_facts h).2.2

end Declares

theorem trace_perm (outline : Outline) (entry : EntryPoint) (found : List Resolved) :
    (trace outline entry found).Perm
      (found.map fun resolved => (findGlobal? outline entry resolved, resolved)) :=
  Sorting.sortByRank_perm _ _

/-- Whether one of the traced variables stands for the same variable of the outline. -/
def isTaken (before : List (Option Global × Resolved)) (standing : Option Global) : Bool :=
  standing.any fun declared => before.any fun earlier => earlier.1.any (·.id == declared.id)

def own? (outline : Outline) (used : Resolved → Bool) (item : Option Global × Resolved) :
    Option Declared.Resource :=
  resource? outline item.1 (used item.2) item.2

/-- What traced variables yield behind others: each its own resource, unless it is taken. -/
def yields (outline : Outline) (used : Resolved → Bool) (before : List (Option Global × Resolved)) :
    List (Option Global × Resolved) → List Declared.Resource
  | [] => []
  | item :: after =>
    (if isTaken before item.1 then [] else (own? outline used item).toList) ++
      yields outline used (before ++ [item]) after

def untaken (before : List (Option Global × Resolved)) :
    List (Option Global × Resolved) → List (Option Global × Resolved)
  | [] => []
  | item :: after =>
    (if isTaken before item.1 then [] else [item]) ++ untaken (before ++ [item]) after

/-- A traced variable as a row of the listing: with the resource that it declares. -/
def row? (outline : Outline) (used : Resolved → Bool) (item : Option Global × Resolved) :
    Option (Resolved × Declared.Resource) :=
  (own? outline used item).map (item.2, ·)

def rowMembers (outline : Outline) (position : Nat) (row : Resolved × Declared.Resource) :
    List Declared.Member :=
  match blockType? row.1 with
  | some type => membersOf outline position row.2 type
  | none => []

def allMembers (outline : Outline) (rows : List (Resolved × Declared.Resource)) :
    List Declared.Member :=
  rows.zipIdx.flatMap fun item => rowMembers outline item.2 item.1

section Run

variable {outline : Outline} {used : Resolved → Bool} {before : List (Option Global × Resolved)}

theorem yields_append {front back : List (Option Global × Resolved)} :
    yields outline used before (front ++ back) =
      yields outline used before front ++ yields outline used (before ++ front) back := by
  induction front generalizing before with
  | nil => simp [yields]
  | cons item front ih => simp [yields, ih]

theorem exists_of_mem_yields {traced : List (Option Global × Resolved)}
    {resource : Declared.Resource} (mem : resource ∈ yields outline used before traced) :
    ∃ item ∈ traced, own? outline used item = some resource := by
  induction traced generalizing before with
  | nil => cases mem
  | cons item after ih =>
    rcases List.mem_append.mp mem with here | later
    · refine ⟨item, List.mem_cons_self, ?_⟩
      split at here
      · cases here
      · exact Option.mem_toList.mp here
    · obtain ⟨other, found, own⟩ := ih later
      exact ⟨other, List.mem_cons_of_mem item found, own⟩

private theorem isTaken_append_single {item : Option Global × Resolved} {declared : Global} :
    isTaken (before ++ [item]) (some declared) =
      (isTaken before (some declared) || item.1.any (·.id == declared.id)) := by
  simp [isTaken]

private theorem isTaken_of_id_eq {one other : Global} (same : one.id = other.id) :
    isTaken before (some one) = isTaken before (some other) := by
  simp [isTaken, same]

private theorem yields_append_single {item : Option Global × Resolved} :
    yields outline used [] (before ++ [item]) = yields outline used [] before ++
      (if isTaken before item.1 then [] else (own? outline used item).toList) := by
  simp [yields_append, yields]

theorem untaken_append {front back : List (Option Global × Resolved)} :
    untaken before (front ++ back) =
      untaken before front ++ untaken (before ++ front) back := by
  induction front generalizing before with
  | nil => simp [untaken]
  | cons item front ih => simp [untaken, ih]

private theorem map_snd_filterMap_row? {items : List (Option Global × Resolved)} :
    (items.filterMap (row? outline used)).map Prod.snd = items.filterMap (own? outline used) := by
  rw [List.map_filterMap]
  refine congrArg (List.filterMap · items) (funext fun item => ?_)
  rw [row?, Option.map_map]
  exact Option.map_id'

/-- What is yielded are the resources of the untaken. -/
theorem yields_eq {traced : List (Option Global × Resolved)} :
    yields outline used before traced =
      ((untaken before traced).filterMap (row? outline used)).map Prod.snd := by
  rw [map_snd_filterMap_row?]
  induction traced generalizing before with
  | nil => rfl
  | cons item after ih =>
    rw [yields, untaken, List.filterMap_append, ih]
    congr 1
    split
    · rfl
    · cases own : own? outline used item <;> simp [own]

private theorem rows_append_single {item : Option Global × Resolved} :
    (untaken [] (before ++ [item])).filterMap (row? outline used) =
      (untaken [] before).filterMap (row? outline used) ++
        (if isTaken before item.1 then [] else (row? outline used item).toList) := by
  rw [untaken_append, List.filterMap_append, List.nil_append, untaken, untaken, List.append_nil]
  congr 1
  split
  · rfl
  · cases own : row? outline used item <;> simp [own]

private theorem allMembers_append {front back : List (Resolved × Declared.Resource)} :
    allMembers outline (front ++ back) = allMembers outline front ++
      (back.zipIdx front.length).flatMap fun item => rowMembers outline item.2 item.1 := by
  rw [allMembers, List.zipIdx_append, List.flatMap_append, Nat.zero_add]
  rfl

private theorem append_claimed {state : State} {found : Option Global} {marked : Bool}
    {resolved : Resolved} :
    (append outline state found marked resolved).claimed = state.claimed := by
  unfold append
  split <;> rfl

private theorem append_resources {state : State} {found : Option Global} {marked : Bool}
    {resolved : Resolved} :
    (append outline state found marked resolved).resources =
      state.resources ++ (resource? outline found marked resolved).toList := by
  unfold append
  split <;> simp_all

private theorem append_members {state : State} {found : Option Global} {marked : Bool}
    {resolved : Resolved} :
    (append outline state found marked resolved).members = state.members ++
      (((resource? outline found marked resolved).map (resolved, ·)).toList.zipIdx
        state.resources.length).flatMap fun item => rowMembers outline item.2 item.1 := by
  unfold append
  split
  · simp_all
  · simp_all only [Option.map_some, Option.toList_some, List.zipIdx_singleton,
      List.flatMap_cons, List.flatMap_nil, List.append_nil]
    rfl

/-- The state behind traced variables: what they stand for is claimed, and what they yield is
listed, with the members. -/
structure Reached (outline : Outline) (used : Resolved → Bool)
    (before : List (Option Global × Resolved)) (state : State) : Prop where
  claimed : ∀ declared : Global,
    state.claimed.contains declared.id = isTaken before (some declared)
  resources : state.resources = yields outline used [] before
  members : state.members =
    allMembers outline ((untaken [] before).filterMap (row? outline used))

private theorem Reached.length_resources {state : State} (h : Reached outline used before state) :
    state.resources.length = ((untaken [] before).filterMap (row? outline used)).length := by
  rw [h.resources, yields_eq, List.length_map]

private theorem Reached.members_append {state : State} (h : Reached outline used before state)
    (item : Option Global × Resolved) (free : isTaken before item.1 = false) :
    state.members ++ ((row? outline used item).toList.zipIdx state.resources.length).flatMap
        (fun item => rowMembers outline item.2 item.1) =
      allMembers outline ((untaken [] (before ++ [item])).filterMap (row? outline used)) := by
  rw [rows_append_single, free, if_neg Bool.false_ne_true, allMembers_append, h.members,
    h.length_resources]

/-- Listing one more variable. -/
theorem Reached.add {state : State} (h : Reached outline used before state)
    (item : Option Global × Resolved) :
    Reached outline used (before ++ [item]) (Listing.add outline used state item) := by
  obtain ⟨standing, resolved⟩ := item
  cases standing with
  | none =>
    refine ⟨fun declared => ?_, ?_, ?_⟩
    · rw [Listing.add, append_claimed, h.claimed, isTaken_append_single]
      simp
    · rw [Listing.add, append_resources, h.resources, yields_append_single]
      rfl
    · rw [Listing.add, Listing.append_members]
      exact h.members_append (none, resolved) rfl
  | some standing =>
    have claimed := h.claimed standing
    cases taken : isTaken before (some standing) with
    | true =>
      rw [Listing.add, if_pos (claimed.trans taken)]
      refine ⟨fun declared => ?_, ?_, ?_⟩
      · rw [h.claimed, isTaken_append_single]
        -- What is taken already takes nothing more.
        by_cases same : standing.id = declared.id
        · rw [← isTaken_of_id_eq same, taken, Bool.true_or]
        · simp [same]
      · simp only [h.resources, yields_append_single, taken, if_true, List.append_nil]
      · simp only [h.members, rows_append_single, taken, if_true, List.append_nil]
    | false =>
      rw [Listing.add, if_neg (by rw [claimed, taken]; exact Bool.false_ne_true)]
      refine ⟨fun declared => ?_, ?_, ?_⟩
      · rw [append_claimed, List.contains_cons, h.claimed, isTaken_append_single, Bool.or_comm,
          Option.any_some, Bool.beq_comm]
      · rw [append_resources, h.resources, yields_append_single, taken]
        rfl
      · rw [Listing.append_members]
        exact h.members_append (some standing, resolved) taken

theorem Reached.foldl_add {state : State} (h : Reached outline used before state)
    (traced : List (Option Global × Resolved)) :
    Reached outline used (before ++ traced) (traced.foldl (Listing.add outline used) state) := by
  induction traced generalizing before state with
  | nil => simpa using h
  | cons item after ih => simpa using ih (h.add item)

private theorem isTaken_eq_false_of_nodup {after : List (Option Global × Resolved)}
    {item : Option Global × Resolved}
    (distinct : (((before ++ item :: after).filterMap Prod.fst).map (·.id)).Nodup) :
    isTaken before item.1 = false := by
  obtain ⟨standing, resolved⟩ := item
  cases standing with
  | none => rfl
  | some declared =>
    simp only [List.filterMap_append, List.map_append, List.filterMap_cons, List.map_cons,
      List.nodup_append] at distinct
    obtain ⟨_, _, apart⟩ := distinct
    rw [Bool.eq_false_iff]
    intro taken
    simp only [isTaken, Option.any_some, List.any_eq_true, Option.any_eq_true, beq_iff_eq] at taken
    obtain ⟨⟨_, _⟩, mem, earlier, rfl, same⟩ := taken
    refine apart _ (List.mem_map.mpr ⟨earlier, ?_, rfl⟩) _ List.mem_cons_self same
    exact List.mem_filterMap.mpr ⟨_, mem, rfl⟩

private theorem yields_of_nodup {traced : List (Option Global × Resolved)}
    (distinct : (((before ++ traced).filterMap Prod.fst).map (·.id)).Nodup) :
    yields outline used before traced = traced.filterMap (own? outline used) := by
  induction traced generalizing before with
  | nil => rfl
  | cons item after ih =>
    rw [yields, isTaken_eq_false_of_nodup distinct, ih (by simpa using distinct),
      List.filterMap_cons]
    cases own? outline used item <;> rfl

end Run

def hasKeyIn (usedKeys : List InterfaceKey) (resolved : Resolved) : Bool :=
  match resolved.key? with
  | some key => usedKeys.contains key
  | none => false

variable {outline : Outline} {entry : EntryPoint} {found : List Resolved}

private theorem reached_list (outline : Outline) (entry : EntryPoint)
    (usedKeys : List InterfaceKey) (found : List Resolved) :
    Reached outline (hasKeyIn usedKeys) (trace outline entry found)
      (list outline entry usedKeys found) := by
  have start : Reached outline (hasKeyIn usedKeys) [] ⟨[], [], [], []⟩ :=
    ⟨fun _ => rfl, rfl, rfl⟩
  exact start.foldl_add (trace outline entry found)

theorem list_resources (outline : Outline) (entry : EntryPoint) (usedKeys : List InterfaceKey)
    (found : List Resolved) :
    (list outline entry usedKeys found).resources =
      yields outline (hasKeyIn usedKeys) [] (trace outline entry found) :=
  (reached_list outline entry usedKeys found).resources

def rows (outline : Outline) (entry : EntryPoint) (usedKeys : List InterfaceKey)
    (found : List Resolved) : List (Resolved × Declared.Resource) :=
  (untaken [] (trace outline entry found)).filterMap (row? outline (hasKeyIn usedKeys))

/-- The resources and members of an interface are those of its rows. -/
theorem list_rows (outline : Outline) (entry : EntryPoint) (usedKeys : List InterfaceKey)
    (found : List Resolved) :
    (list outline entry usedKeys found).resources =
        (rows outline entry usedKeys found).map Prod.snd ∧
      (list outline entry usedKeys found).members =
        allMembers outline (rows outline entry usedKeys found) :=
  have listed := reached_list outline entry usedKeys found
  ⟨listed.resources.trans yields_eq, listed.members⟩

theorem list_resources_of_nodup (usedKeys : List InterfaceKey)
    (distinct : ((found.filterMap (findGlobal? outline entry)).map (·.id)).Nodup) :
    (list outline entry usedKeys found).resources =
      (trace outline entry found).filterMap (own? outline (hasKeyIn usedKeys)) := by
  have traced : ((trace outline entry found).filterMap Prod.fst).Perm
      (found.filterMap (findGlobal? outline entry)) := by
    simpa [List.filterMap_map, Function.comp_def] using
      (trace_perm outline entry found).filterMap Prod.fst
  rw [list_resources]
  exact yields_of_nodup ((traced.map (·.id)).nodup_iff.mpr distinct)

/-- A descriptor has a place in the trace. There it yields one resource, which has what the
descriptor says, unless a variable before it stands for the same variable of the outline; then it
yields none. -/
theorem descriptor_yields (outline : Outline) (entry : EntryPoint) (usedKeys : List InterfaceKey)
    {name : Option String} {set slot count : UInt32} {binding : DescriptorBinding} {type : Ty}
    (mem : .descriptor name set slot binding type count ∈ found) :
    ∃ standing before after, standing = outline.descriptor? set slot type.category ∧
      trace outline entry found =
        before ++ (standing, .descriptor name set slot binding type count) :: after ∧
      (list outline entry usedKeys found).resources =
        yields outline (hasKeyIn usedKeys) [] before ++
          ((if isTaken before standing then []
            else [{
              name := (name.or type.structName?).getD "", ids := idsOf outline standing
              kind := kindOf binding, dimension := (imageOf type).1
              access := accessOf binding type, format := (imageOf type).2
              set, binding := slot, size := count
              used := usedKeys.contains (.descriptor set slot) }]) ++
            yields outline (hasKeyIn usedKeys)
              (before ++ [(standing, .descriptor name set slot binding type count)]) after) := by
  have traced := (trace_perm outline entry found).mem_iff.mpr (List.mem_map_of_mem mem)
  obtain ⟨before, after, here⟩ := List.append_of_mem traced
  refine ⟨_, before, after, rfl, here, ?_⟩
  rw [list_resources, here, yields_append]
  rfl

/-- The words of a module with a flat texture 10 and a cube texture 11, both arrays of four at
binding 0 of set 0. Its entry point refers to both. -/
def sharedSlot : List UInt32 :=
  [119734787, 66304, 0, 20, 0, 131089, 1, 196622, 0, 1, 327695, 5, 1, 1852399981, 0, 393232, 1, 17,
   1, 1, 1, 262149, 10, 1952541798, 0, 262149, 11, 1700951395, 0, 262215, 10, 34, 0, 262215, 10, 33,
   0, 262215, 11, 34, 0, 262215, 11, 33, 0, 196630, 2, 32, 262165, 3, 32, 0, 262187, 3, 4, 4,
   589849, 5, 2, 1, 0, 0, 0, 1, 0, 262172, 6, 5, 4, 262176, 7, 0, 6, 589849, 8, 2, 3, 0, 0, 0, 1, 0,
   262172, 9, 8, 4, 262176, 12, 0, 9, 262203, 7, 10, 0, 262203, 12, 11, 0, 131091, 13, 196641, 14,
   13, 327734, 13, 1, 0, 14, 131320, 15, 262205, 6, 16, 10, 262205, 9, 17, 11, 65789, 65592]

def sharedEntry : EntryPoint := ⟨⟨5⟩, 1, "main", []⟩

def sharedOutline : Outline :=
  ⟨[.entryPoint sharedEntry, .idName 10 "flat", .idName 11 "cube", .placement 10 .set 0,
    .placement 10 .binding 0, .placement 11 .set 0, .placement 11 .binding 0, .type 5 .image,
    .type 6 (.array 5), .type 7 (.pointer 6), .type 8 .image, .type 9 (.array 8),
    .type 12 (.pointer 9), .global ⟨10, 7, .uniformConstant⟩, .global ⟨11, 12, .uniformConstant⟩]⟩

def sharedTexture (name : String) (dim : Dim) : Resolved :=
  .descriptor (some name) 0 0 .sampledImage
    (.sampledImage ⟨.float 32, some false, ⟨dim, false, false⟩⟩) 4

def sharedTextures : List Resolved := [sharedTexture "flat" .dim2D, sharedTexture "cube" .cube]

theorem descriptor_yields_flat :
    sharedTexture "flat" .dim2D ∈ sharedTextures ∧ ∃ before after,
      trace sharedOutline sharedEntry sharedTextures =
        before ++ (some ⟨10, 7, .uniformConstant⟩, sharedTexture "flat" .dim2D) :: after ∧
      (list sharedOutline sharedEntry [] sharedTextures).resources =
        yields sharedOutline (hasKeyIn []) [] before ++
          ((if isTaken before (some ⟨10, 7, .uniformConstant⟩) then []
            else [⟨"flat", ⟨10, 6, 5⟩, .texture, .texture2D, .readWrite, .unknown, 0, 0, 4,
              false⟩]) ++
            yields sharedOutline (hasKeyIn [])
              (before ++ [(some ⟨10, 7, .uniformConstant⟩, sharedTexture "flat" .dim2D)])
              after) := by
  have mem : sharedTexture "flat" .dim2D ∈ sharedTextures := List.mem_cons_self
  obtain ⟨standing, before, after, same, here, listed⟩ :=
    descriptor_yields sharedOutline sharedEntry [] mem
  obtain rfl : standing = some ⟨10, 7, .uniformConstant⟩ := same
  exact ⟨mem, before, after, here, listed⟩

/-- Both textures are traced back to the first, so that the second is not listed. -/
theorem read_sharedSlot :
    scan sharedSlot = .ok sharedOutline ∧
      (resolveChosen resolveModule .standard sharedSlot "main").toOption.map (·.declared) =
        some sharedTextures ∧
      (read .standard sharedSlot).outcome.toOption.map (·.resources.map (·.name)) =
        some ["flat"] := by
  refine ⟨rfl, ?_, ?_⟩
  · decide +kernel
  · decide +kernel

end Listing

end ShaderInterface.Spirv
