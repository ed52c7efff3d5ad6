import ShaderInterface.Spirv.Resolution.Constants
import ShaderInterface.Spirv.Resolution.Functions
import ShaderInterface.Spirv.Resolution.Preamble
import ShaderInterface.Spirv.Resolution.Types

/-! Resolving a module: its instructions go through sections in a fixed order. Each section takes
what fits and leaves the rest to the next; the last takes everything or refuses it. -/
namespace ShaderInterface.Spirv.Resolution

def addVariable (registry : Registry) (operands : List UInt32) : Except Fault Registry := do
  let (typeId, rest) ← Operands.word operands
  let (id, rest) ← Operands.word rest
  let _ ← Operands.enumerant StorageClass.ofNumber? rest
  match registry.type? typeId with
  | none => return registry
  | some (.pointer storage type) =>
    if (registry.globals.lookup id).isSome then .error (.variableExists id)
    else return { registry with globals := (id, ⟨storage, type⟩) :: registry.globals }
  | some _ => .error (.nestedType typeId)

/-- Variables, and instructions among them that declare nothing. -/
def globals : Step := fun registry instruction =>
  match instruction.opcode with
  | .variableDecl => (addVariable registry instruction.operands).map some
  | .line => .ok (some registry)
  | .noLine => .ok (some registry)
  | .extInst => .ok (some registry)
  | .undef => .ok (some registry)
  | _ => .ok none

/-- Takes an instruction by the first of two steps that does. -/
def Step.orElse (first second : Step) : Step := fun registry instruction => do
  match ← first registry instruction with
  | some registry => return some registry
  | none => second registry instruction

def declarations : Step :=
  Types.types.orElse (Constants.constants.orElse globals)

/-- Takes instructions as long as they fit a section; the rest is handed back. -/
def takeSection (step : Step) : Registry → List Instruction →
    Except Fault (Registry × List Instruction)
  | registry, [] => .ok (registry, [])
  | registry, instruction :: rest =>
    match step registry instruction with
    | .error fault => .error fault
    | .ok none => .ok (registry, instruction :: rest)
    | .ok (some registry) => takeSection step registry rest

def sections : List Step :=
  [Preamble.capabilities, Preamble.extensions, Preamble.imports, Preamble.memoryModel,
   Preamble.entryPoints, Preamble.executionModes, Preamble.names, Preamble.decorations,
   declarations, Functions.functions]

def takeSections : List Step → Registry → List Instruction → Except Fault Registry
  | [], registry, _ => .ok registry
  | step :: later, registry, instructions => do
    let (registry, rest) ← takeSection step registry instructions
    takeSections later registry rest

/-- Everything that the instructions of a module declare. -/
def Registry.ofInstructions (instructions : List Instruction) : Except Fault Registry :=
  takeSections sections .empty instructions

end ShaderInterface.Spirv.Resolution
