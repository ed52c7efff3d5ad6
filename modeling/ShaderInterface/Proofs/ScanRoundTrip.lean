import ShaderInterface.Proofs.ScanLanguage

/-! Scanning what is written. Declarations of a module, written as instructions behind a header in
any order, are scanned without a fault, and the outline says of every id what the last declaration
to speak of it says. -/
namespace ShaderInterface.Spirv

def Slot.decoration : Slot → Decoration
  | set => .descriptorSet
  | binding => .binding
  | location => .location
  | component => .component

/-- What an instruction of module scope declares. The details of an image are the words behind its
id. -/
inductive Declaration
  | entryPoint (entry : EntryPoint)
  | idName (target : UInt32) (text : String)
  | placement (target : UInt32) (slot : Slot) (value : UInt32)
  | image (id : UInt32) (details : List UInt32)
  | sampledImage (id sampled : UInt32)
  | sampler (id : UInt32)
  | accelerationStructure (id : UInt32)
  | array (id element length : UInt32)
  | runtimeArray (id element : UInt32)
  | pointer (id storage pointee : UInt32)
  | struct (id : UInt32) (members : List UInt32)
  | global (declared : Global) (initializer : Option UInt32)

namespace Declaration

def instruction : Declaration → Instruction
  | entryPoint entry =>
    ⟨.entryPoint, entry.model.number :: entry.function ::
      (Operand.write entry.name ++ entry.interface)⟩
  | idName target text => ⟨.name, target :: Operand.write text⟩
  | placement target slot value => ⟨.decorate, [target, slot.decoration.number, value]⟩
  | image id details => ⟨.typeImage, id :: details⟩
  | sampledImage id sampled => ⟨.typeSampledImage, [id, sampled]⟩
  | sampler id => ⟨.typeSampler, [id]⟩
  | accelerationStructure id => ⟨.typeAccelerationStructureKHR, [id]⟩
  | array id element length => ⟨.typeArray, [id, element, length]⟩
  | runtimeArray id element => ⟨.typeRuntimeArray, [id, element]⟩
  | pointer id storage pointee => ⟨.typePointer, [id, storage, pointee]⟩
  | struct id members => ⟨.typeStruct, id :: members⟩
  | global declared initializer =>
    ⟨.variableDecl, declared.pointerType :: declared.id :: declared.storage.number ::
      initializer.toList⟩

/-- The words of a module: a header, and the instructions of its declarations. -/
def moduleWords (version generator bound schema : UInt32) (declarations : List Declaration) :
    List UInt32 :=
  0x07230203 :: version :: generator :: bound :: schema ::
    declarations.flatMap fun declaration => declaration.instruction.words

/-- Numbers are known, and texts have no zero in them. -/
def WellFormed : Declaration → Prop
  | entryPoint entry =>
    ExecutionModel.numbers.has entry.model.number = true ∧ '\x00' ∉ entry.name.toList
  | idName _ text => '\x00' ∉ text.toList
  | global declared _ => StorageClass.numbers.has declared.storage.number = true
  | _ => True

instance : DecidablePred WellFormed
  | entryPoint _ => inferInstanceAs (Decidable (_ ∧ _))
  | idName .. => inferInstanceAs (Decidable (_ ∉ _))
  | global .. => inferInstanceAs (Decidable (_ = _))
  | placement .. | image .. | sampledImage .. | sampler .. | accelerationStructure .. | array ..
  | runtimeArray .. | pointer .. | struct .. => inferInstanceAs (Decidable True)

def entryPoint? : Declaration → Option EntryPoint
  | entryPoint entry => some entry
  | _ => none

def global? : Declaration → Option Global
  | global declared _ => some declared
  | _ => none

def nameOf? (id : UInt32) : Declaration → Option String
  | idName target text => if target = id then some text else none
  | _ => none

def valueOf? (id : UInt32) (slot : Slot) : Declaration → Option UInt32
  | placement target of value => if target = id ∧ of = slot then some value else none
  | _ => none

def type? : Declaration → Option (UInt32 × Shape)
  | image id _ => some (id, .image)
  | sampledImage id _ => some (id, .image)
  | sampler id => some (id, .sampler)
  | accelerationStructure id => some (id, .accelerationStructure)
  | array id element _ => some (id, .array element)
  | runtimeArray id element => some (id, .array element)
  | pointer id _ pointee => some (id, .pointer pointee)
  | struct id members => some (id, .struct members)
  | _ => none

def shapeOf? (id : UInt32) (declaration : Declaration) : Option Shape :=
  declaration.type?.bind fun (target, shape) => if target = id then some shape else none

/-- The last declaration to say something says this, or none says anything. -/
def LastSays {α : Type} (read : Declaration → Option α) (declarations : List Declaration) :
    Option α → Prop
  | some said => ∃ before last after, declarations = before ++ last :: after ∧
      read last = some said ∧ ∀ later ∈ after, read later = none
  | none => ∀ declaration ∈ declarations, read declaration = none

/-- An outline that says of every id what the last declaration to speak of it says. -/
structure Told (declarations : List Declaration) (outline : Outline) : Prop where
  entryPoints : outline.entryPoints = declarations.filterMap entryPoint?
  globals : outline.globals = declarations.filterMap global?
  name : ∀ id, LastSays (nameOf? id) declarations (outline.name? id)
  members : ∀ id, ∃ shape, LastSays (shapeOf? id) declarations shape ∧
    outline.members id = match shape with
      | some (.struct members) => members
      | _ => []
  pointee : ∀ id, ∃ shape, LastSays (shapeOf? id) declarations shape ∧
    outline.pointee id = match shape with
      | some (.pointer pointee) => pointee
      | _ => id
  placement : ∀ id slot, LastSays (valueOf? id slot) declarations (outline.placement? id slot)
  bindingSlot : ∀ id, ∃ set binding, LastSays (valueOf? id .set) declarations set ∧
    LastSays (valueOf? id .binding) declarations binding ∧
      outline.bindingSlot id = (set.getD 0, binding.getD 0)

/-- What scanning makes of a declaration. -/
def record : Declaration → Record
  | entryPoint entry => .entryPoint entry
  | idName target text => .idName target text
  | placement target slot value => .placement target slot value
  | image id _ => .type id .image
  | sampledImage id _ => .type id .image
  | sampler id => .type id .sampler
  | accelerationStructure id => .type id .accelerationStructure
  | array id element _ => .type id (.array element)
  | runtimeArray id element => .type id (.array element)
  | pointer id _ pointee => .type id (.pointer pointee)
  | struct id members => .type id (.struct members)
  | global declared _ => .global declared

theorem ofInstruction_instruction {declaration : Declaration} (h : declaration.WellFormed) :
    Record.ofInstruction declaration.instruction = .ok (some declaration.record) := by
  cases declaration with
  | entryPoint entry =>
    obtain ⟨model, free⟩ := h
    have read := Record.readEntryPoint_eq_ok_iff.mpr
      ⟨_, entry.function, _, entry.interface, _, rfl, model, Operand.spells_write free, rfl⟩
    exact map_eq_ok_iff.mpr ⟨_, read, rfl⟩
  | idName target text =>
    have read := Record.readName_eq_ok_iff.mpr
      ⟨target, _, [], text, rfl, Operand.spells_write h, rfl⟩
    rw [List.append_nil] at read
    exact map_eq_ok_iff.mpr ⟨_, read, rfl⟩
  | placement target slot value => cases slot <;> rfl
  | global declared initializer =>
    exact map_eq_ok_iff.mpr ⟨_, Record.readGlobal_eq_ok_iff.mpr ⟨_, _, _, _, rfl, h, rfl⟩, rfl⟩
  | _ => rfl

private theorem opcode_mem (declaration : Declaration) :
    declaration.instruction.opcode ∈ Record.readOpcodes := by
  cases declaration <;> simp [instruction, Record.readOpcodes]

private theorem readOpcodes_facts : ∀ opcode ∈ Record.readOpcodes,
    opcode.isKnown = true ∧ opcode.number < 0x10000 ∧ opcode ≠ .function ∧
      opcode ≠ .functionEnd := by
  decide

theorem insideAfter_instruction (declaration : Declaration) (inside : Bool) :
    Scan.insideAfter inside declaration.instruction = inside := by
  obtain ⟨_, _, start, stop⟩ := readOpcodes_facts _ (opcode_mem declaration)
  rw [Bool.eq_iff_iff, Scan.insideAfter_eq_true_iff]
  simp [start, stop]

theorem foldl_insideAfter_instructions (declarations : List Declaration) (inside : Bool) :
    (declarations.map instruction).foldl Scan.insideAfter inside = inside := by
  induction declarations with
  | nil => rfl
  | cons first following ih => rw [List.map_cons, List.foldl_cons, insideAfter_instruction, ih]

theorem walk_instructions {declarations : List Declaration}
    (h : ∀ declaration ∈ declarations, declaration.WellFormed) (position : Nat) :
    Scan.walk false position (declarations.map instruction) = .ok (declarations.map record) := by
  induction declarations generalizing position with
  | nil => rfl
  | cons first following ih =>
    obtain ⟨wellFormed, others⟩ := List.forall_mem_cons.mp h
    have known := (readOpcodes_facts _ (opcode_mem first)).1
    refine Scan.walk_cons_eq_ok_iff.mpr
      ⟨known, _, ofInstruction_instruction wellFormed, _, ?_, rfl⟩
    rw [insideAfter_instruction]
    exact ih others _

/-- Where a function is open, declarations are walked over too, only that variables are left out. -/
theorem exists_walk_instructions {declarations : List Declaration}
    (h : ∀ declaration ∈ declarations, declaration.WellFormed) (inside : Bool) (position : Nat) :
    ∃ records, records.Sublist (declarations.map record) ∧
      Scan.walk inside position (declarations.map instruction) = .ok records := by
  induction declarations generalizing inside position with
  | nil => exact ⟨[], .slnil, rfl⟩
  | cons first following ih =>
    obtain ⟨wellFormed, others⟩ := List.forall_mem_cons.mp h
    have known := (readOpcodes_facts _ (opcode_mem first)).1
    obtain ⟨records, fewer, walked⟩ := ih others inside (position + first.instruction.size)
    rw [← insideAfter_instruction first inside] at walked
    by_cases skipped : inside = true ∧ first.instruction.opcode = .variableDecl
    · exact ⟨records, fewer.cons first.record, Scan.walk_cons_eq_ok_iff.mpr
        ⟨known, none, Scan.collect_of_skipped skipped, records, walked, rfl⟩⟩
    · have collected :=
        (Scan.collect_of_visited skipped).trans (ofInstruction_instruction wellFormed)
      exact ⟨first.record :: records, fewer.cons_cons first.record, Scan.walk_cons_eq_ok_iff.mpr
        ⟨known, some first.record, collected, records, walked, rfl⟩⟩

theorem spells_instructions {declarations : List Declaration}
    (short : ∀ declaration ∈ declarations, declaration.instruction.size < 0x10000) :
    InstructionStream.Spells (declarations.flatMap fun declaration => declaration.instruction.words)
      (declarations.map instruction) := by
  rw [← List.flatMap_map]
  refine Instruction.spells_flatMap_words fun instruction written => ?_
  obtain ⟨declaration, mem, rfl⟩ := List.mem_map.mp written
  obtain ⟨_, number, _⟩ := readOpcodes_facts _ (opcode_mem declaration)
  exact ⟨short declaration mem, number⟩

theorem scan_moduleWords {declarations : List Declaration} (version generator bound schema : UInt32)
    (wellFormed : ∀ declaration ∈ declarations, declaration.WellFormed)
    (short : ∀ declaration ∈ declarations, declaration.instruction.size < 0x10000) :
    scan (moduleWords version generator bound schema declarations) =
      .ok ⟨declarations.map record⟩ := by
  refine scan_eq_ok_iff.mpr ⟨?_, rfl, _, spells_instructions short, walk_instructions wellFormed _⟩
  simp [moduleWords, Scan.headerWords]

theorem lastSays_findSome? {α : Type} (read : Declaration → Option α)
    (declarations : List Declaration) :
    LastSays read declarations (declarations.reverse.findSome? read) := by
  cases found : declarations.reverse.findSome? read with
  | none =>
    intro declaration mem
    exact List.findSome?_eq_none_iff.mp found declaration (List.mem_reverse.mpr mem)
  | some said =>
    obtain ⟨after, last, before, same, reads, silent⟩ := List.findSome?_eq_some_iff.mp found
    refine ⟨before.reverse, last, after.reverse, ?_, reads, ?_⟩
    · rw [← List.reverse_inj, same]
      simp
    · intro later mem
      exact silent later (List.mem_reverse.mp mem)

private theorem lastSays_last? {α : Type} {read : Record → Option α}
    {said : Declaration → Option α}
    (same : ∀ declaration, read declaration.record = said declaration)
    (declarations : List Declaration) :
    LastSays said declarations (Outline.last? ⟨declarations.map record⟩ read) := by
  have composed : read ∘ record = said := funext same
  rw [Outline.last?, ← List.map_reverse, List.findSome?_map, composed]
  exact lastSays_findSome? said declarations

private theorem filterMap_map_record {α : Type} {read : Record → Option α}
    {said : Declaration → Option α}
    (same : ∀ declaration, read declaration.record = said declaration)
    (declarations : List Declaration) :
    (declarations.map record).filterMap read = declarations.filterMap said := by
  have composed : read ∘ record = said := funext same
  rw [List.filterMap_map, composed]

private theorem lastSays_shape? (declarations : List Declaration) (id : UInt32) :
    LastSays (shapeOf? id) declarations (Outline.shape? ⟨declarations.map record⟩ id) :=
  lastSays_last? (fun declaration => by cases declaration <;> rfl) declarations

private theorem lastSays_placement? (declarations : List Declaration) (id : UInt32) (slot : Slot) :
    LastSays (valueOf? id slot) declarations
      (Outline.placement? ⟨declarations.map record⟩ id slot) :=
  lastSays_last? (fun declaration => by cases declaration <;> rfl) declarations

theorem told_map_record (declarations : List Declaration) :
    Told declarations ⟨declarations.map record⟩ where
  entryPoints := filterMap_map_record (fun declaration => by cases declaration <;> rfl) declarations
  globals := filterMap_map_record (fun declaration => by cases declaration <;> rfl) declarations
  name id := lastSays_last? (fun declaration => by cases declaration <;> rfl) declarations
  members id := ⟨_, lastSays_shape? declarations id, rfl⟩
  pointee id := ⟨_, lastSays_shape? declarations id, rfl⟩
  placement id slot := lastSays_placement? declarations id slot
  bindingSlot id := ⟨_, _, lastSays_placement? declarations id .set,
    lastSays_placement? declarations id .binding, rfl⟩

/-- Declarations written in any order are scanned, and the outline tells what they say. -/
theorem scan_tells {declarations : List Declaration} (version generator bound schema : UInt32)
    (wellFormed : ∀ declaration ∈ declarations, declaration.WellFormed)
    (short : ∀ declaration ∈ declarations, declaration.instruction.size < 0x10000) :
    ∃ outline, scan (moduleWords version generator bound schema declarations) = .ok outline ∧
      Told declarations outline :=
  ⟨_, scan_moduleWords version generator bound schema wellFormed short,
    told_map_record declarations⟩

/-- Declarations that speak of the same ids more than once, with names whose words end with a whole
word of zeros or with a character of several bytes. -/
def sample : List Declaration :=
  [.entryPoint ⟨⟨0⟩, 4, "main", [10, 11]⟩, .idName 10 "größe", .placement 10 .set 1,
   .placement 10 .binding 2, .struct 20 [21, 22], .pointer 23 2 20, .global ⟨10, 23, ⟨2⟩⟩ none,
   .placement 10 .binding 3, .idName 10 "", .struct 20 [22], .image 21 [24, 1, 0, 0, 0, 1, 0],
   .array 22 21 25, .global ⟨11, 23, ⟨12⟩⟩ (some 26), .entryPoint ⟨⟨5⟩, 5, "größe.cs", []⟩]

theorem scan_tells_sample :
    (∀ declaration ∈ sample, declaration.WellFormed) ∧
      (∀ declaration ∈ sample, declaration.instruction.size < 0x10000) ∧
        ∃ outline, scan (moduleWords 0x10300 0 30 0 sample) = .ok outline ∧
          Told sample outline := by
  have wellFormed : ∀ declaration ∈ sample, declaration.WellFormed := by decide
  have short : ∀ declaration ∈ sample, declaration.instruction.size < 0x10000 := by decide
  exact ⟨wellFormed, short, scan_tells 0x10300 0 30 0 wellFormed short⟩

end Declaration

end ShaderInterface.Spirv
