import ShaderInterface.Spirv.Resolution.Registry

/-! The sections before the types: imports, the memory model, entry points with their modes, names
and decorations. -/
namespace ShaderInterface.Spirv.Resolution.Preamble

open Operands

def capabilities : Step := fun registry instruction =>
  match instruction.opcode with
  | .capability => .ok (some registry)
  | _ => .ok none

def extensions : Step := fun registry instruction =>
  match instruction.opcode with
  | .extension => .ok (some registry)
  | _ => .ok none

def importSet (registry : Registry) (operands : List UInt32) : Except Fault Registry := do
  let (id, rest) ← word operands
  let _ ← text rest
  if registry.imports.contains id then .error (.importExists id)
  else return { registry with imports := id :: registry.imports }

def imports : Step := fun registry instruction =>
  match instruction.opcode with
  | .extInstImport => (importSet registry instruction.operands).map some
  | _ => .ok none

def setMemoryModel (registry : Registry) (operands : List UInt32) : Except Fault Registry := do
  let (addressing, rest) ← enumerant AddressingModel.ofNumber? operands
  let (memory, _) ← enumerant MemoryModel.ofNumber? rest
  if addressing ≠ .logical ∧ addressing ≠ .physicalStorageBuffer64 then
    .error .addressingModel
  else if memory ≠ .glsl450 ∧ memory ≠ .vulkan then .error .memoryModel
  else return { registry with hasMemoryModel := true }

def memoryModel : Step := fun registry instruction =>
  match instruction.opcode with
  | .memoryModel =>
    if registry.hasMemoryModel then .ok none
    else (setMemoryModel registry instruction.operands).map some
  | _ => .ok none

def addEntry (registry : Registry) (operands : List UInt32) : Except Fault Registry := do
  let (_, rest) ← enumerant ExecutionModel.ofNumber? operands
  let (function, rest) ← word rest
  let (name, _) ← text rest
  if registry.entries.any (·.function == function) then .error .entryPointExists
  else return { registry with entries := registry.entries ++ [⟨function, name, []⟩] }

def entryPoints : Step := fun registry instruction =>
  match instruction.opcode with
  | .entryPoint => (addEntry registry instruction.operands).map some
  | _ => .ok none

/-- Adds a mode to the entry point of a function. -/
def addMode (registry : Registry) (operand : UInt32 → ModeOperand) (operands : List UInt32) :
    Except Fault Registry := do
  let (function, rest) ← word operands
  let (number, rest) ← word rest
  match ExecutionMode.ofNumber? number with
  | none => .error .executionMode
  | some mode =>
    if registry.entries.any (·.function == function) then
      let entries := registry.entries.map fun entry =>
        if entry.function = function then
          { entry with modes := entry.modes ++ [⟨mode, rest.map operand⟩] }
        else entry
      return { registry with entries }
    else .error .entryPointMissing

/-- Execution modes, with literal operands or with the ids of constants. -/
def executionModes : Step := fun registry instruction =>
  match instruction.opcode with
  | .executionMode => (addMode registry .literal instruction.operands).map some
  | .executionModeId => (addMode registry .constant instruction.operands).map some
  | _ => .ok none

def addName (registry : Registry) (operands : List UInt32) : Except Fault Registry := do
  let (id, rest) ← word operands
  let (name, _) ← text rest
  return registry.setName id none name

def addMemberName (registry : Registry) (operands : List UInt32) : Except Fault Registry := do
  let (id, rest) ← word operands
  let (member, rest) ← word rest
  let (name, _) ← text rest
  return registry.setName id (some member) name

/-- Names, and source text that says nothing about the interface. -/
def names : Step := fun registry instruction =>
  match instruction.opcode with
  | .name => (addName registry instruction.operands).map some
  | .memberName => (addMemberName registry instruction.operands).map some
  | .string => .ok (some registry)
  | .sourceExtension => .ok (some registry)
  | .source => .ok (some registry)
  | .sourceContinued => .ok (some registry)
  | .moduleProcessed => .ok (some registry)
  | _ => .ok none

def addDecoration (registry : Registry) (operands : List UInt32) : Except Fault Registry := do
  let (target, rest) ← word operands
  let (decoration, rest) ← enumerant Decoration.ofNumber? rest
  registry.decorate ⟨target, none, decoration, rest⟩

def addMemberDecoration (registry : Registry) (operands : List UInt32) :
    Except Fault Registry := do
  let (target, rest) ← word operands
  let (member, rest) ← word rest
  let (decoration, rest) ← enumerant Decoration.ofNumber? rest
  registry.decorate ⟨target, some member, decoration, rest⟩

/-- Decorations; those of groups, and those with ids or text for operands, are passed over. -/
def decorations : Step := fun registry instruction =>
  match instruction.opcode with
  | .decorate => (addDecoration registry instruction.operands).map some
  | .memberDecorate => (addMemberDecoration registry instruction.operands).map some
  | .decorationGroup => .ok (some registry)
  | .groupDecorate => .ok (some registry)
  | .groupMemberDecorate => .ok (some registry)
  | .decorateId => .ok (some registry)
  | .decorateString => .ok (some registry)
  | .memberDecorateString => .ok (some registry)
  | _ => .ok none

end ShaderInterface.Spirv.Resolution.Preamble
