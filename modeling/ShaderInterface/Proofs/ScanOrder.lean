import ShaderInterface.Proofs.ScanLanguage

/-! The order of declarations. An outline answers alike for modules that declare each thing by the
same instructions in the same order, however these stand among the others; and instructions that
declare nothing can be put in or left out. -/
namespace ShaderInterface.Spirv

open InstructionStream (Spells)

namespace Record

def typeOpcodes : List Opcode := .typePointer :: (leafOpcodes ++ arrayOpcodes)

/-- The instructions that a record can come from. -/
def Stems (instruction : Instruction) : Record → Prop
  | .entryPoint _ => instruction.opcode = .entryPoint
  | .idName target _ => instruction.opcode = .name ∧ instruction.operands.head? = some target
  | .placement target slot _ => instruction.opcode = .decorate ∧
      instruction.operands[1]?.bind Slot.ofNumber? = some slot ∧
        instruction.operands.head? = some target
  | .type id _ => instruction.opcode ∈ typeOpcodes ∧ instruction.operands.head? = some id
  | .global _ => instruction.opcode = .variableDecl

section Stems

variable {opcode : Opcode} {operands : List UInt32} {record : Record}

private theorem stems_of_leaf {shape : Shape} (type : opcode ∈ typeOpcodes)
    (h : (readLeaf shape operands).map some = .ok (some record)) :
    record.Stems ⟨opcode, operands⟩ := by
  obtain ⟨found, read, same⟩ := map_eq_ok_iff.mp h
  cases same
  obtain ⟨id, rest, rfl, rfl⟩ := readLeaf_eq_ok_iff.mp read
  exact ⟨type, rfl⟩

private theorem stems_of_array (type : opcode ∈ typeOpcodes)
    (h : (readArray operands).map some = .ok (some record)) :
    record.Stems ⟨opcode, operands⟩ := by
  obtain ⟨found, read, same⟩ := map_eq_ok_iff.mp h
  cases same
  obtain ⟨id, element, rest, rfl, rfl⟩ := readArray_eq_ok_iff.mp read
  exact ⟨type, rfl⟩

theorem stems_of_ofInstruction (h : ofInstruction ⟨opcode, operands⟩ = .ok (some record)) :
    record.Stems ⟨opcode, operands⟩ := by
  by_cases other : opcode ∉ readOpcodes
  · rw [ofInstruction_of_other operands other] at h
    cases h
  have known := Decidable.not_not.mp other
  simp only [readOpcodes, List.mem_cons, List.not_mem_nil, or_false] at known
  -- One case for each operation, in the order of `readOpcodes`.
  rcases known with rfl | rfl | rfl | rfl | rfl | rfl | rfl | rfl | rfl | rfl | rfl | rfl
  · obtain ⟨found, read, same⟩ := map_eq_ok_iff.mp h
    cases same
    obtain ⟨_, _, _, _, _, rfl, _, _, rfl⟩ := readEntryPoint_eq_ok_iff.mp read
    rfl
  · obtain ⟨found, read, same⟩ := map_eq_ok_iff.mp h
    cases same
    obtain ⟨_, _, _, _, rfl, _, rfl⟩ := readName_eq_ok_iff.mp read
    exact ⟨rfl, rfl⟩
  · obtain ⟨_, _, _, rfl, ⟨_, none⟩ | ⟨slot, _, _, placing, rfl, same⟩⟩ :=
      readPlacement_eq_ok_iff.mp h
    · cases none
    · cases same
      exact ⟨rfl, placing, rfl⟩
  · exact stems_of_leaf (by decide) h
  · exact stems_of_leaf (by decide) h
  · exact stems_of_leaf (by decide) h
  · exact stems_of_leaf (by decide) h
  · exact stems_of_array (by decide) h
  · exact stems_of_array (by decide) h
  · obtain ⟨found, read, same⟩ := map_eq_ok_iff.mp h
    cases same
    obtain ⟨_, _, _, _, rfl, rfl⟩ := readPointer_eq_ok_iff.mp read
    exact ⟨(by decide : Opcode.typePointer ∈ typeOpcodes), rfl⟩
  · obtain ⟨found, read, same⟩ := map_eq_ok_iff.mp h
    cases same
    obtain ⟨_, _, rfl, rfl⟩ := readStruct_eq_ok_iff.mp read
    exact ⟨(by decide : Opcode.typeStruct ∈ typeOpcodes), rfl⟩
  · obtain ⟨found, read, same⟩ := map_eq_ok_iff.mp h
    cases same
    obtain ⟨_, _, _, _, rfl, _, rfl⟩ := readGlobal_eq_ok_iff.mp read
    rfl

end Stems

end Record

namespace Instruction

def declaresEntryPoint (instruction : Instruction) : Bool := instruction.opcode == .entryPoint

def namesId (id : UInt32) (instruction : Instruction) : Bool :=
  instruction.opcode == .name && instruction.operands.head? == some id

def placesId (id : UInt32) (slot : Slot) (instruction : Instruction) : Bool :=
  instruction.opcode == .decorate &&
    instruction.operands[1]?.bind Slot.ofNumber? == some slot &&
      instruction.operands.head? == some id

def declaresType (id : UInt32) (instruction : Instruction) : Bool :=
  instruction.opcode ∈ Record.typeOpcodes && instruction.operands.head? == some id

section Kinds

variable {instruction : Instruction} {id : UInt32} {slot : Slot}

theorem ne_variableDecl_of_declaresEntryPoint (h : instruction.declaresEntryPoint = true) :
    instruction.opcode ≠ .variableDecl := by
  have opcode : instruction.opcode = .entryPoint := eq_of_beq h
  rw [opcode]
  decide

theorem ne_variableDecl_of_namesId (h : instruction.namesId id = true) :
    instruction.opcode ≠ .variableDecl := by
  rw [namesId, Bool.and_eq_true, beq_iff_eq] at h
  rw [h.1]
  decide

theorem ne_variableDecl_of_placesId (h : instruction.placesId id slot = true) :
    instruction.opcode ≠ .variableDecl := by
  rw [placesId, Bool.and_eq_true, Bool.and_eq_true, beq_iff_eq] at h
  rw [h.1.1]
  decide

theorem ne_variableDecl_of_declaresType (h : instruction.declaresType id = true) :
    instruction.opcode ≠ .variableDecl := by
  rw [declaresType, Bool.and_eq_true, decide_eq_true_iff] at h
  intro same
  rw [same] at h
  exact absurd h.1 (by decide)

end Kinds

end Instruction

namespace Scan

/-- The instructions of a kind, which may depend on whether a function is open before them. -/
def selected (kind : Bool → Instruction → Bool) (inside : Bool) :
    List Instruction → List Instruction
  | [] => []
  | first :: following =>
    let others := selected kind (insideAfter inside first) following
    if kind inside first then first :: others else others

def moduleVariables (instructions : List Instruction) : List Instruction :=
  selected (fun inside instruction => !inside && instruction.opcode == .variableDecl) false
    instructions

/-- Instructions that declare each thing alike: those that speak of one thing are the same, in the
same order. Of other instructions nothing is said. -/
structure DeclareAlike (one other : List Instruction) : Prop where
  entryPoints : one.filter (·.declaresEntryPoint) = other.filter (·.declaresEntryPoint)
  globals : moduleVariables one = moduleVariables other
  names : ∀ id, one.filter (·.namesId id) = other.filter (·.namesId id)
  placements : ∀ id slot, one.filter (·.placesId id slot) = other.filter (·.placesId id slot)
  types : ∀ id, one.filter (·.declaresType id) = other.filter (·.declaresType id)

/-- A known instruction that is not collected and neither begins nor ends a function. -/
structure Inert (instruction : Instruction) : Prop where
  known : instruction.opcode.isKnown = true
  uncollected : instruction.opcode ∉ Record.readOpcodes
  begins : instruction.opcode ≠ .function
  ends : instruction.opcode ≠ .functionEnd

def readOff {α : Type} (read : Record → Option α) (instruction : Instruction) : Option α :=
  (Record.ofInstruction instruction).toOption.join.bind read

section Walk

variable {α : Type} {read : Record → Option α} {inside : Bool} {position : Nat}
  {instructions : List Instruction} {records : List Record}

theorem selected_eq_filter (kind : Instruction → Bool) (inside : Bool)
    (instructions : List Instruction) :
    selected (fun _ => kind) inside instructions = instructions.filter kind := by
  induction instructions generalizing inside with
  | nil => rfl
  | cons first following ih => rw [selected, ih, List.filter_cons]

theorem stems_of_collect {instruction : Instruction} {record : Record}
    (collected : collect inside instruction = .ok (some record)) : record.Stems instruction := by
  by_cases skipped : inside = true ∧ instruction.opcode = .variableDecl
  · rw [collect_of_skipped skipped] at collected
    cases collected
  · rw [collect_of_visited skipped] at collected
    exact Record.stems_of_ofInstruction collected

/-- What is read off the records of a walk is read off the instructions of a kind, if the walk
visits those and nothing can be read off others. -/
theorem filterMap_walk {kind : Bool → Instruction → Bool}
    (visits : ∀ inside instruction, kind inside instruction = true →
      ¬ (inside = true ∧ instruction.opcode = .variableDecl))
    (only : ∀ inside instruction, kind inside instruction = false →
      ∀ record, collect inside instruction = .ok (some record) → read record = none)
    (walked : walk inside position instructions = .ok records) :
    records.filterMap read = (selected kind inside instructions).filterMap (readOff read) := by
  -- The kind may depend on whether a function is open, which the walk hands on.
  induction instructions generalizing inside position records with
  | nil =>
    cases walked
    rfl
  | cons first following ih =>
    obtain ⟨_, found, collected, behind, walkedBehind, rfl⟩ := walk_cons_eq_ok_iff.mp walked
    rw [List.filterMap_append, ih walkedBehind, selected]
    cases chosen : kind inside first with
    | true =>
      have off : readOff read first = found.bind read := by
        rw [readOff, ← collect_of_visited (visits inside first chosen), collected]
        rfl
      rw [if_pos rfl, List.filterMap_cons, off]
      cases found with
      | none => rfl
      | some record => cases said : read record <;> simp [said]
    | false =>
      have nothing : found.toList.filterMap read = [] := by
        cases found with
        | none => rfl
        | some record => simp [only inside first chosen record collected]
      rw [nothing]
      rfl

theorem filterMap_walk_filter {kind : Instruction → Bool}
    (visits : ∀ instruction, kind instruction = true → instruction.opcode ≠ .variableDecl)
    (only : ∀ instruction record, record.Stems instruction → kind instruction = false →
      read record = none)
    (walked : walk inside position instructions = .ok records) :
    records.filterMap read = (instructions.filter kind).filterMap (readOff read) := by
  rw [← selected_eq_filter kind inside]
  refine filterMap_walk ?_ ?_ walked
  · intro _ instruction chosen skipped
    exact visits instruction chosen skipped.2
  · intro _ instruction left record collected
    exact only instruction record (stems_of_collect collected) left

theorem filterMap_walk_variables
    (only : ∀ instruction record, record.Stems instruction →
      instruction.opcode ≠ .variableDecl → read record = none)
    (walked : walk false position instructions = .ok records) :
    records.filterMap read = (moduleVariables instructions).filterMap (readOff read) := by
  refine filterMap_walk ?_ ?_ walked
  · rintro inside instruction chosen ⟨rfl, _⟩
    cases chosen
  · intro inside instruction left record collected
    have stems := stems_of_collect collected
    refine only instruction record stems fun same => ?_
    have inside : inside = true := by simpa [same] using left
    rw [collect_of_skipped ⟨inside, same⟩] at collected
    cases collected

theorem Inert.collect {instruction : Instruction} (inert : Inert instruction) (inside : Bool) :
    collect inside instruction = .ok none := by
  rw [collect_of_visited]
  · exact Record.ofInstruction_of_other instruction.operands inert.uncollected
  · rintro ⟨_, same⟩
    exact inert.uncollected (same ▸ by decide)

theorem Inert.insideAfter {instruction : Instruction} (inert : Inert instruction) (inside : Bool) :
    insideAfter inside instruction = inside := by
  rw [Bool.eq_iff_iff, insideAfter_eq_true_iff]
  simp [inert.begins, inert.ends]

theorem walk_insert_iff {instruction : Instruction} (inert : Inert instruction)
    {before after : List Instruction} :
    walk inside position (before ++ instruction :: after) = .ok records ↔
      walk inside position (before ++ after) = .ok records := by
  simp only [walk_append_eq_ok_iff, walk_cons_eq_ok_iff, inert.collect, inert.insideAfter,
    Except.ok.injEq, exists_eq_left']
  -- Only positions behind the instruction change, and no record holds one.
  constructor
  · rintro ⟨front, _, walkedFront, ⟨_, back, walkedBack, rfl⟩, rfl⟩
    exact ⟨front, back, walkedFront, walk_position walkedBack _, rfl⟩
  · rintro ⟨front, back, walkedFront, walkedBack, rfl⟩
    exact ⟨front, back, walkedFront, ⟨inert.known, back, walk_position walkedBack _, rfl⟩, rfl⟩

end Walk

end Scan

namespace Outline

/-- Two outlines that answer every query alike. -/
structure AnswerAlike (one other : Outline) : Prop where
  entryPoints : one.entryPoints = other.entryPoints
  entryPoint : ∀ name, one.entryPoint? name = other.entryPoint? name
  globals : one.globals = other.globals
  position : ∀ id, one.position? id = other.position? id
  name : ∀ id, one.name? id = other.name? id
  pointee : ∀ type, one.pointee type = other.pointee type
  base : ∀ type, one.base type = other.base type
  members : ∀ type, one.members type = other.members type
  category : ∀ type, one.category type = other.category type
  descriptor : ∀ set binding category,
    one.descriptor? set binding category = other.descriptor? set binding category
  interface : ∀ entry storage location component name,
    one.interface? entry storage location component name =
      other.interface? entry storage location component name
  pushConstant : ∀ entry name block,
    one.pushConstant? entry name block = other.pushConstant? entry name block

section Answers

variable {one other : Outline}

theorem last?_congr {α : Type} {read : Record → Option α}
    (same : one.records.filterMap read = other.records.filterMap read) :
    one.last? read = other.last? read := by
  rw [last?, last?, ← List.head?_filterMap, ← List.head?_filterMap, List.filterMap_reverse,
    List.filterMap_reverse, same]

theorem baseWithin_congr (shapes : ∀ id, one.shape? id = other.shape? id) (bound : Nat)
    (type : UInt32) : one.baseWithin bound type = other.baseWithin bound type := by
  induction bound generalizing type with
  | zero => rfl
  | succ bound ih =>
    have targets : one.target? type = other.target? type := by rw [target?, target?, shapes]
    rw [baseWithin, baseWithin, targets]
    cases other.target? type with
    | none => rfl
    | some target => exact ih target

theorem answerAlike_of_same (entryPoints : one.entryPoints = other.entryPoints)
    (globals : one.globals = other.globals) (names : ∀ id, one.name? id = other.name? id)
    (shapes : ∀ id, one.shape? id = other.shape? id)
    (placements : ∀ id slot, one.placement? id slot = other.placement? id slot) :
    AnswerAlike one other := by
  have bases : ∀ type, one.base type = other.base type := baseWithin_congr shapes maxTypeDepth
  have categories : ∀ type, one.category type = other.category type := by
    intro type
    rw [category, category, bases, shapes]
  have slots : ∀ id, one.bindingSlot id = other.bindingSlot id := by
    intro id
    rw [bindingSlot, bindingSlot, placements, placements]
  refine ⟨entryPoints, ?_, globals, ?_, names, ?_, bases, ?_, categories, ?_, ?_, ?_⟩
  · intro name
    rw [entryPoint?, entryPoint?, entryPoints]
  · intro id
    rw [position?, position?, globals]
  · intro type
    rw [pointee, pointee, shapes]
  · intro type
    rw [members, members, shapes]
  · intro set binding wanted
    simp only [descriptor?, globals, slots, categories]
  · intro entry storage location component name
    simp only [interface?, globals, placements, mayBeNamed, names]
  · intro entry name block
    simp only [pushConstant?, pushConstants, globals, names, bases]

end Answers

end Outline

section Order

variable {one other : Outline} {instructions others : List Instruction}

/-- Outlines of instructions that declare alike answer alike. -/
theorem answerAlike_of_declareAlike
    (walked : Scan.walk false Scan.headerWords instructions = .ok one.records)
    (walkedOther : Scan.walk false Scan.headerWords others = .ok other.records)
    (alike : Scan.DeclareAlike instructions others) : one.AnswerAlike other := by
  -- What is read off the records of one kind is the same, as the instructions of that kind are.
  have off {α : Type} {read : Record → Option α} {kind : Instruction → Bool}
      (visits : ∀ instruction, kind instruction = true → instruction.opcode ≠ .variableDecl)
      (only : ∀ instruction record, record.Stems instruction → kind instruction = false →
        read record = none)
      (same : instructions.filter kind = others.filter kind) :
      one.records.filterMap read = other.records.filterMap read := by
    rw [Scan.filterMap_walk_filter visits only walked,
      Scan.filterMap_walk_filter visits only walkedOther, same]
  refine Outline.answerAlike_of_same ?_ ?_ ?_ ?_ ?_
  · refine off (fun _ => Instruction.ne_variableDecl_of_declaresEntryPoint) ?_ alike.entryPoints
    intro instruction record stems left
    cases record with
    | entryPoint entry => exact absurd stems (ne_of_beq_false left)
    | _ => rfl
  · rw [Outline.globals, Outline.globals,
      Scan.filterMap_walk_variables ?_ walked, Scan.filterMap_walk_variables ?_ walkedOther,
      alike.globals]
    all_goals
      intro instruction record stems differs
      cases record with
      | global declared => exact absurd stems differs
      | _ => rfl
  · intro id
    refine Outline.last?_congr
      (off (fun _ => Instruction.ne_variableDecl_of_namesId) ?_ (alike.names id))
    intro instruction record stems left
    cases record with
    | idName target text =>
      refine if_neg fun same => ?_
      simp [Instruction.namesId, stems.1, stems.2, same] at left
    | _ => rfl
  · intro id
    refine Outline.last?_congr
      (off (fun _ => Instruction.ne_variableDecl_of_declaresType) ?_ (alike.types id))
    intro instruction record stems left
    cases record with
    | type target shape =>
      refine if_neg fun same => ?_
      simp [Instruction.declaresType, stems.1, stems.2, same] at left
    | _ => rfl
  · intro id slot
    refine Outline.last?_congr
      (off (fun _ => Instruction.ne_variableDecl_of_placesId) ?_ (alike.placements id slot))
    intro instruction record stems left
    cases record with
    | placement target of value =>
      refine if_neg fun same => ?_
      simp [Instruction.placesId, stems.1, stems.2.1, stems.2.2, same.1, same.2] at left
    | _ => rfl

theorem scan_append_iff {header body : List UInt32} (five : header.length = 5)
    (spelled : Spells body instructions) : scan (header ++ body) = .ok one ↔
      header.head? = some Scan.magicNumber ∧
        Scan.walk false Scan.headerWords instructions = .ok one.records := by
  obtain ⟨first, rest, rfl⟩ := List.exists_cons_of_length_eq_add_one five
  have behind : (first :: rest ++ body).drop Scan.headerWords = body := List.drop_left' five
  rw [scan_eq_ok_iff, behind]
  constructor
  · rintro ⟨_, magic, same, alike, walked⟩
    obtain rfl := alike.unique spelled
    exact ⟨magic, walked⟩
  · rintro ⟨magic, walked⟩
    refine ⟨?_, magic, instructions, spelled, walked⟩
    rw [List.length_append, five]
    exact Nat.le_add_right _ _

/-- The order of declarations does not matter, as far as they speak of different things, nor do
instructions that declare nothing. -/
theorem scan_order_free :
    (∀ words otherWords one other instructions others,
      scan words = .ok one → Spells (words.drop 5) instructions →
      scan otherWords = .ok other → Spells (otherWords.drop 5) others →
      Scan.DeclareAlike instructions others → one.AnswerAlike other) ∧
    ∀ header front middle back before instruction after,
      header.length = 5 → Spells front before → Spells middle [instruction] → Spells back after →
      Scan.Inert instruction → ∀ outline,
        scan (header ++ (front ++ (middle ++ back))) = .ok outline ↔
          scan (header ++ (front ++ back)) = .ok outline := by
  constructor
  · intro words otherWords one other instructions others scanned spelled scannedOther spelledOther
      alike
    obtain ⟨_, _, same, whole, walked⟩ := scan_eq_ok_iff.mp scanned
    obtain ⟨_, _, sameOther, wholeOther, walkedOther⟩ := scan_eq_ok_iff.mp scannedOther
    obtain rfl := whole.unique spelled
    obtain rfl := wholeOther.unique spelledOther
    exact answerAlike_of_declareAlike walked walkedOther alike
  · intro header front middle back before instruction after five spelledFront spelledMiddle
      spelledBack inert outline
    have joined := (InstructionStream.spells_append_iff spelledMiddle).mpr ⟨_, rfl, spelledBack⟩
    have withIt := (InstructionStream.spells_append_iff spelledFront).mpr ⟨_, rfl, joined⟩
    have without := (InstructionStream.spells_append_iff spelledFront).mpr ⟨_, rfl, spelledBack⟩
    rw [scan_append_iff five withIt, scan_append_iff five without]
    exact and_congr_right fun _ => Scan.walk_insert_iff inert

end Order

def samplerEntries : List Instruction :=
  [⟨.entryPoint, [4, 4, 0x6e69616d, 0, 10]⟩, ⟨.entryPoint, [5, 4, 0x787561]⟩]

def samplerParts : List Instruction :=
  samplerEntries ++
  [⟨.name, [10, 0x706d6173, 0]⟩, ⟨.decorate, [10, 33, 2]⟩, ⟨.decorate, [10, 34, 1]⟩,
    ⟨.typeSampler, [5]⟩, ⟨.typePointer, [6, 0, 5]⟩, ⟨.variableDecl, [6, 10, 0]⟩,
    ⟨.function, [3, 4, 0, 5]⟩, ⟨.variableDecl, [6, 7, 7]⟩, ⟨.functionEnd, []⟩]

/-- The same, the variable and the function first, then the types, the entry points, the decorations
and the name. -/
def samplerTurned : List Instruction :=
  samplerParts.drop 7 ++ (samplerParts.drop 5).take 2 ++ samplerEntries ++
    ((samplerParts.drop 2).take 3).reverse

def plainHeader : List UInt32 := [0x07230203, 0x10000, 0, 20, 0]

/-- The sampler is found whichever way round its instructions stand, and a line noted inside the
function changes nothing. -/
theorem scan_order_free_sampler :
    ∃ one other, scan (plainHeader ++ samplerParts.flatMap Instruction.words) = .ok one ∧
      scan (plainHeader ++ samplerTurned.flatMap Instruction.words) = .ok other ∧
      Scan.DeclareAlike samplerParts samplerTurned ∧
      one.descriptor? 1 2 .sampler = some ⟨10, 6, ⟨0⟩⟩ ∧
      other.descriptor? 1 2 .sampler = some ⟨10, 6, ⟨0⟩⟩ ∧
      other.entryPoints = [⟨⟨4⟩, 4, "main", [10]⟩, ⟨⟨5⟩, 4, "aux", []⟩] ∧
      other.entryPoint? "aux" = some ⟨⟨5⟩, 4, "aux", []⟩ ∧
      Scan.Inert ⟨.line, [1, 1, 1]⟩ ∧
      scan (plainHeader ++ ((samplerParts.take 9).flatMap Instruction.words ++
        ([0x40008, 1, 1, 1] ++ (samplerParts.drop 9).flatMap Instruction.words))) = .ok one := by
  have alike : Scan.DeclareAlike samplerParts samplerTurned := by
    exact ⟨rfl, rfl, fun id => rfl, fun id slot => by cases slot <;> rfl, fun id => rfl⟩
  have inert : Scan.Inert ⟨.line, [1, 1, 1]⟩ := ⟨by decide, by decide, by decide, by decide⟩
  obtain ⟨order, insert⟩ := scan_order_free
  have scanned : scan (plainHeader ++ samplerParts.flatMap Instruction.words) =
      .ok ⟨[.entryPoint ⟨⟨4⟩, 4, "main", [10]⟩, .entryPoint ⟨⟨5⟩, 4, "aux", []⟩,
        .idName 10 "samp", .placement 10 .binding 2, .placement 10 .set 1, .type 5 .sampler,
        .type 6 (.pointer 5), .global ⟨10, 6, ⟨0⟩⟩]⟩ := rfl
  have spelled : Spells ((plainHeader ++ samplerParts.flatMap Instruction.words).drop 5)
      samplerParts := InstructionStream.split_eq_complete_iff.mp rfl
  have scannedTurned : scan (plainHeader ++ samplerTurned.flatMap Instruction.words) =
      .ok ⟨[.global ⟨10, 6, ⟨0⟩⟩, .type 5 .sampler, .type 6 (.pointer 5),
        .entryPoint ⟨⟨4⟩, 4, "main", [10]⟩, .entryPoint ⟨⟨5⟩, 4, "aux", []⟩, .placement 10 .set 1,
        .placement 10 .binding 2, .idName 10 "samp"]⟩ := rfl
  have spelledTurned : Spells ((plainHeader ++ samplerTurned.flatMap Instruction.words).drop 5)
      samplerTurned := InstructionStream.split_eq_complete_iff.mp rfl
  have same := order _ _ _ _ _ _ scanned spelled scannedTurned spelledTurned alike
  refine ⟨_, _, scanned, scannedTurned, alike, rfl, (same.descriptor 1 2 .sampler).symm,
    same.entryPoints.symm, (same.entryPoint "aux").symm, inert, ?_⟩
  exact (insert _ _ _ _ (samplerParts.take 9) ⟨.line, [1, 1, 1]⟩ (samplerParts.drop 9) rfl
    (InstructionStream.split_eq_complete_iff.mp rfl)
    (InstructionStream.split_eq_complete_iff.mp rfl)
    (InstructionStream.split_eq_complete_iff.mp rfl) inert _).mpr scanned

end ShaderInterface.Spirv
