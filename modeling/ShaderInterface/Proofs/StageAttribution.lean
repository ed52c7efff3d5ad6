import ShaderInterface.Proofs.ListingInvariant

/-! To which variable the stage inputs and outputs of a reading belong. The resolver tells of the
variables of every entry point; one that the entry point does not list can be taken for one that it
lists, if both lie at one place and their names do not tell them apart. -/
namespace ShaderInterface.Spirv

namespace Outline

def located? (outline : Outline) (type : Ty) (declared : Global) : Option Resolved :=
  let name := outline.name? declared.id
  let component := (outline.placement? declared.id .component).getD 0
  match declared.storage with
  | .input =>
    (outline.placement? declared.id .location).map (.input name · component type)
  | .output =>
    (outline.placement? declared.id .location).map (.output name · component type)
  | _ => none

def SamePlace (outline : Outline) (one other : Global) : Prop :=
  one.storage = other.storage ∧
    outline.placement? one.id .location = outline.placement? other.id .location ∧
      (outline.placement? one.id .component).getD 0 =
        (outline.placement? other.id .component).getD 0

/-- Two variables at one place whose names are the same, unless one of them has none. -/
def MayPassFor (outline : Outline) (one other : Global) : Prop :=
  outline.SamePlace one other ∧ outline.mayBeNamed (outline.name? one.id) other = true

instance (outline : Outline) (one other : Global) : Decidable (outline.SamePlace one other) :=
  inferInstanceAs (Decidable (_ ∧ _ ∧ _))

instance (outline : Outline) (one other : Global) : Decidable (outline.MayPassFor one other) :=
  inferInstanceAs (Decidable (_ ∧ _))

theorem MayPassFor.refl (outline : Outline) (declared : Global) :
    outline.MayPassFor declared declared := by
  refine ⟨⟨rfl, rfl, rfl⟩, ?_⟩
  unfold mayBeNamed
  cases outline.name? declared.id <;> simp

end Outline

namespace Listing

def isLocated : Resolved → Bool
  | .input .. => true
  | .output .. => true
  | _ => false

/-- The stage inputs and outputs that are told of are those of the module, whichever entry point
lists them, each once and with its own name, place and type. -/
def ReportsLocated (outline : Outline) (types : Global → Ty) (found : List Resolved) : Prop :=
  (found.filter isLocated).Perm
    (outline.globals.filterMap fun declared => outline.located? (types declared) declared)

def isStage (resource : Declared.Resource) : Bool :=
  resource.kind == .stageInput || resource.kind == .stageOutput

/-- A stage input or output with the id and the place of one variable and with the name and the size
of another. -/
structure Attributed (outline : Outline) (types : Global → Ty) (resource : Declared.Resource)
    (one other : Global) : Prop where
  id : resource.ids.id = one.id
  kind : one.storage = .input ∧ resource.kind = .stageInput ∨
    one.storage = .output ∧ resource.kind = .stageOutput
  location : outline.placement? one.id .location = some resource.binding
  name : resource.name = (outline.name? other.id).getD ""
  size : resource.size = byteWord (types other).stripArrays.byteSize?

instance (outline : Outline) (types : Global → Ty) (found : List Resolved) :
    Decidable (ReportsLocated outline types found) :=
  inferInstanceAs (Decidable (List.Perm _ _))

section Located

variable {outline : Outline} {entry : EntryPoint} {type : Ty} {types : Global → Ty}
  {one other : Global} {resolved : Resolved} {resource : Declared.Resource}

private theorem located?_eq_some_iff : outline.located? type one = some resolved ↔
    ∃ location, outline.placement? one.id .location = some location ∧
      (one.storage = .input ∧ resolved = .input (outline.name? one.id) location
          ((outline.placement? one.id .component).getD 0) type ∨
        one.storage = .output ∧ resolved = .output (outline.name? one.id) location
          ((outline.placement? one.id .component).getD 0) type) := by
  unfold Outline.located?
  split
  · rename_i input
    rw [input, Option.map_eq_some_iff]
    simp [StorageClass.input, StorageClass.output, eq_comm]
  · rename_i output
    rw [output, Option.map_eq_some_iff]
    simp [StorageClass.input, StorageClass.output, eq_comm]
  · rename_i noInput noOutput
    constructor
    · intro h
      cases h
    · rintro ⟨_, _, ⟨input, _⟩ | ⟨output, _⟩⟩
      · exact (noInput input).elim
      · exact (noOutput output).elim

/-- A stage input or output is traced back to the first variable of the entry point that it may pass
for. -/
theorem findGlobal?_of_located? (h : outline.located? type one = some resolved) :
    findGlobal? outline entry resolved =
      outline.globals.find? fun declared =>
        decide (declared.id ∈ entry.interface ∧ outline.MayPassFor one declared) := by
  obtain ⟨location, placed, ⟨storage, rfl⟩ | ⟨storage, rfl⟩⟩ := located?_eq_some_iff.mp h
  all_goals
    refine congrArg (List.find? · outline.globals) (funext fun declared => ?_)
    rw [Bool.eq_iff_iff, decide_eq_true_eq, Outline.MayPassFor, Outline.SamePlace, storage, placed]
    simp only [Bool.and_eq_true, beq_iff_eq, List.contains_iff_mem, eq_comm (a := some location),
      eq_comm (b := declared.storage)]
    tauto

theorem mayPassFor_of_findGlobal? (located : outline.located? type other = some resolved)
    (traced : findGlobal? outline entry resolved = some one) :
    one.id ∈ entry.interface ∧ outline.MayPassFor other one := by
  rw [findGlobal?_of_located? located] at traced
  simpa using List.find?_some traced

private theorem isLocated_of_findGlobal? {own : Resolved}
    (traced : findGlobal? outline entry resolved = some one)
    (located : outline.located? type one = some own) : isLocated resolved = true := by
  obtain ⟨_, _, storage⟩ := located?_eq_some_iff.mp located
  have stage : one.storage = .input ∨ one.storage = .output := storage.imp And.left And.left
  have fits := fits_of_findGlobal? traced
  cases resolved with
  | input | output => rfl
  | descriptor | pushConstant | specConstant =>
    rcases stage with storage | storage <;> simp [Fits, Outline.isDescriptor, storage] at fits

private theorem isStage_eq_isLocated {standing : Option Global} {used : Bool}
    (h : resource? outline standing used resolved = some resource) :
    isStage resource = isLocated resolved := by
  have kind := resource?_kind h
  cases resolved with
  | descriptor _ _ _ binding =>
    rw [isStage, ← Option.some.inj kind]
    cases binding <;> rfl
  | pushConstant | input | output =>
    rw [isStage, ← Option.some.inj kind]
    rfl
  | specConstant => cases h

private theorem attributed_of_resource? {used : Bool}
    (located : outline.located? (types other) other = some resolved)
    (same : outline.SamePlace other one)
    (h : resource? outline (some one) used resolved = some resource) :
    Attributed outline types resource one other := by
  obtain ⟨storage, location, _⟩ := same
  obtain ⟨word, placed, ⟨input, rfl⟩ | ⟨output, rfl⟩⟩ := located?_eq_some_iff.mp located
  · cases h
    exact ⟨rfl, .inl ⟨storage ▸ input, rfl⟩, location ▸ placed, rfl, rfl⟩
  · cases h
    exact ⟨rfl, .inr ⟨storage ▸ output, rfl⟩, location ▸ placed, rfl, rfl⟩

variable {usedKeys : List InterfaceKey} {found : List Resolved}

private theorem exists_traced_of_isStage
    (mem : (resolved, resource) ∈ rows outline entry usedKeys found)
    (stage : isStage resource = true) : ∃ standing,
      findGlobal? outline entry resolved = some standing ∧ resource.ids.id = standing.id := by
  obtain ⟨_, declares⟩ := of_mem_rows mem
  cases traced : findGlobal? outline entry resolved with
  | none =>
    obtain ⟨noInput, noOutput⟩ := kind_of_untraced (traced ▸ declares)
    simp [isStage, noInput, noOutput] at stage
  | some standing =>
    refine ⟨standing, rfl, ?_⟩
    rw [resource?_ids declares, traced]
    rfl

/-- Behind a listed stage input or output stands the first variable that is taken for its own. -/
theorem attributed_of_mem_rows (reports : ReportsLocated outline types found)
    (mem : (resolved, resource) ∈ rows outline entry usedKeys found)
    (stage : isStage resource = true) :
    ∃ one ∈ outline.globals, ∃ other ∈ outline.globals, one.id ∈ entry.interface ∧
      outline.MayPassFor other one ∧ Attributed outline types resource one other ∧
        firstFor? outline entry found one.id = outline.located? (types other) other := by
  obtain ⟨one, traced, _⟩ := exists_traced_of_isStage mem stage
  obtain ⟨first, declares⟩ := (mem_rows_iff_of_traced traced).mp mem
  rw [isStage_eq_isLocated declares] at stage
  have told := List.mem_filter.mpr ⟨List.mem_of_find?_eq_some first, stage⟩
  obtain ⟨other, known, located⟩ := List.mem_filterMap.mp (reports.mem_iff.mp told)
  obtain ⟨listed, passes⟩ := mayPassFor_of_findGlobal? located traced
  exact ⟨one, mem_of_findGlobal? traced, other, known, listed, passes,
    attributed_of_resource? located passes.1 declares, first.trans located.symm⟩

private theorem findGlobal?_self {own : Resolved}
    (apart : ∀ one ∈ outline.globals, ∀ other ∈ outline.globals, one.id ∈ entry.interface →
      other.id ∈ entry.interface → (outline.located? (types one) one).isSome →
        outline.SamePlace one other → one = other)
    (mem : one ∈ outline.globals) (listed : one.id ∈ entry.interface)
    (located : outline.located? (types one) one = some own) :
    findGlobal? outline entry own = some one := by
  have traced : (findGlobal? outline entry own).isSome := by
    rw [findGlobal?_of_located? located, List.find?_isSome]
    exact ⟨one, mem, decide_eq_true ⟨listed, .refl outline one⟩⟩
  obtain ⟨other, standing⟩ := Option.isSome_iff_exists.mp traced
  obtain ⟨otherListed, same, _⟩ := mayPassFor_of_findGlobal? located standing
  have isSome : (outline.located? (types one) one).isSome := by rw [located]; rfl
  rw [standing, apart one mem other (mem_of_findGlobal? standing) listed otherListed isSome same]

theorem filter_stage_eq_singleton (reports : ReportsLocated outline types found)
    (distinct : (outline.globals.map (·.id)).Nodup)
    (apart : ∀ one ∈ outline.globals, ∀ other ∈ outline.globals, one.id ∈ entry.interface →
      other.id ∈ entry.interface → (outline.located? (types one) one).isSome →
        outline.SamePlace one other → one = other)
    (mem : one ∈ outline.globals) (listed : one.id ∈ entry.interface)
    (located : (outline.located? (types one) one).isSome) :
    ∃ resource, (list outline entry usedKeys found).resources.filter
      (fun listed => listed.ids.id == one.id && isStage listed) = [resource] := by
  obtain ⟨own, here⟩ := Option.isSome_iff_exists.mp located
  have told : own ∈ found := by
    have reported := reports.mem_iff.mpr (List.mem_filterMap.mpr ⟨one, mem, here⟩)
    exact (List.mem_filter.mp reported).1
  obtain ⟨resolved, _, first, traced⟩ :=
    exists_firstFor?_of_nodup distinct told (findGlobal?_self apart mem listed here)
  obtain ⟨_, resource, _, _, row, sameId, declares⟩ := exists_row_of_firstFor? usedKeys first
  have stage : isStage resource = true := by
    rw [isStage_eq_isLocated declares, isLocated_of_findGlobal? traced here]
  refine ⟨resource, ?_⟩
  rw [(list_rows outline entry usedKeys found).1]
  -- Nothing else is traced back to the variable, as each id has one row.
  refine filter_rows_eq_singleton one.id row (by simp [stage, sameId])
    fun another known selected => ?_
  obtain ⟨ids, otherStage⟩ := Bool.and_eq_true_iff.mp selected
  obtain ⟨third, traced, sameThird⟩ := exists_traced_of_isStage known otherStage
  exact isFor_iff.mpr ⟨third, traced, sameThird.symm.trans (beq_iff_eq.mp ids)⟩

end Located

end Listing

/-- Which variables the stage inputs and outputs of a reading belong to. Each has the id of a
variable that the entry point lists, and the name and size of the first one that is taken for it; so
they are its own where no other may pass for it. Where no two listed variables lie at one place,
each of them gives one. -/
theorem read_attributed {resolver : Resolver} {config : Config} {words : List UInt32}
    {outline : Outline} {declared : EntryPoint} {entry : Resolution.Entry} {types : Global → Ty}
    (scanned : scan words = .ok outline) (chosen : chooseEntry config outline = .ok declared)
    (resolved : resolveChosen resolver config words declared.name = .ok entry)
    (reports : Listing.ReportsLocated outline types entry.declared) :
    ∃ reading, (readWith resolver config words).outcome = .ok reading ∧
      (∀ resource ∈ reading.resources, Listing.isStage resource = true →
        ∃ one ∈ outline.globals, ∃ other ∈ outline.globals, one.id ∈ declared.interface ∧
          outline.MayPassFor other one ∧ Listing.Attributed outline types resource one other ∧
            Listing.firstFor? outline declared entry.declared one.id =
              outline.located? (types other) other) ∧
      ((outline.globals.map (·.id)).Nodup →
        (∀ one ∈ outline.globals, ∀ other ∈ outline.globals, one.id ∈ declared.interface →
          other.id ∈ declared.interface → (outline.located? (types one) one).isSome →
            outline.SamePlace one other → one = other) →
        ∀ one ∈ outline.globals, one.id ∈ declared.interface →
          (outline.located? (types one) one).isSome →
            ∃ resource, reading.resources.filter
              (fun listed => listed.ids.id == one.id && Listing.isStage listed) = [resource]) := by
  have read : (readEntry outline declared entry).outcome = .ok _ := rfl
  refine ⟨_, readWith_eq_ok_iff.mpr ⟨outline, declared, entry, scanned, chosen, resolved, read⟩,
    ?_, ?_⟩
  · intro resource mem stage
    rw [(Listing.list_rows outline declared (usedKeys entry) entry.declared).1] at mem
    obtain ⟨row, here, rfl⟩ := List.mem_map.mp mem
    exact Listing.attributed_of_mem_rows reports here stage
  · intro distinct apart one mem listed located
    exact Listing.filter_stage_eq_singleton reports distinct apart mem listed located

/-- The words of a module with two entry points, "one" and "two", that list an input at location 0
each: "one" the unnamed input 10 of four floats, "two" the input 20 "uv" of two. -/
def twoInputs : List UInt32 :=
  [119734787, 66304, 0, 40, 0, 131089, 1, 196622, 0, 1, 327695, 0, 1, 6647407, 10, 327695, 0, 2,
   7305076, 20, 196613, 20, 30325, 262215, 10, 30, 0, 262215, 20, 30, 0, 131091, 3, 196641, 4, 3,
   196630, 5, 32, 262167, 6, 5, 4, 262167, 7, 5, 2, 262176, 8, 1, 6, 262203, 8, 10, 1, 262176, 9, 1,
   7, 262203, 9, 20, 1, 327734, 3, 1, 0, 4, 131320, 30, 262205, 6, 31, 10, 65789, 65592, 327734, 3,
   2, 0, 4, 131320, 32, 262205, 7, 33, 20, 65789, 65592]

def secondInputEntry : EntryPoint := ⟨⟨0⟩, 2, "two", [20]⟩

def twoInputsOutline : Outline :=
  ⟨[.entryPoint ⟨⟨0⟩, 1, "one", [10]⟩, .entryPoint secondInputEntry, .idName 20 "uv",
    .placement 10 .location 0, .placement 20 .location 0, .type 8 (.pointer 6),
    .global ⟨10, 8, .input⟩, .type 9 (.pointer 7), .global ⟨20, 9, .input⟩]⟩

def inputType (declared : Global) : Ty :=
  .vector (.float 32) (if declared.id = 10 then 4 else 2)

def secondInputs : Resolution.Entry :=
  ⟨"two", [],
   [.input none 0 0 (.vector (.float 32) 4), .input (some "uv") 0 0 (.vector (.float 32) 2)],
   [.input (some "uv") 0 0 (.vector (.float 32) 2)]⟩

theorem read_attributed_twoInputs :
    resolveChosen resolveModule secondEntry twoInputs "two" = .ok secondInputs ∧
      Listing.ReportsLocated twoInputsOutline inputType secondInputs.declared ∧
        ∃ reading, (readWith resolveModule secondEntry twoInputs).outcome = .ok reading ∧
          ∃ resource, reading.resources.filter
            (fun listed => listed.ids.id == 20 && Listing.isStage listed) = [resource] := by
  have scanned : scan twoInputs = .ok twoInputsOutline := by decide +kernel
  have chosen : chooseEntry secondEntry twoInputsOutline = .ok secondInputEntry := by decide +kernel
  have resolved : resolveChosen resolveModule secondEntry twoInputs "two" = .ok secondInputs := by
    decide +kernel
  have reports : Listing.ReportsLocated twoInputsOutline inputType secondInputs.declared := by
    decide +kernel
  obtain ⟨reading, read, _, each⟩ := read_attributed scanned chosen resolved reports
  refine ⟨resolved, reports, reading, read, ?_⟩
  exact each (by decide +kernel) (by decide +kernel) ⟨20, 9, .input⟩ (by decide +kernel)
    (by decide +kernel) (by decide +kernel)

/-- The input "uv" of two floats is listed without a name and with four, as the input of the other
entry point is taken for it first. -/
theorem read_twoInputs :
    resolveChosen resolveModule secondEntry twoInputs "two" = .ok secondInputs ∧
      Listing.ReportsLocated twoInputsOutline inputType secondInputs.declared ∧
        twoInputsOutline.name? 20 = some "uv" ∧
          (inputType ⟨20, 9, .input⟩).stripArrays.byteSize? = some 8 ∧
            (read secondEntry twoInputs).outcome.toOption.map
              (·.resources.map fun resource => (resource.ids.id, resource.name, resource.size)) =
                some [(20, "", 16)] := by
  refine ⟨?_, ?_, ?_, ?_, ?_⟩
  all_goals decide +kernel

end ShaderInterface.Spirv
