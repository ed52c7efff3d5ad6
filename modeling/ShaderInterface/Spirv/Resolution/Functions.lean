import ShaderInterface.Spirv.Resolution.Registry

/-! Function bodies, as far as they say which variables an entry point refers to. A reference is a
load, a store or an atomic access through a pointer that leads to a variable by access chains. -/
namespace ShaderInterface.Spirv.Resolution.Functions

open Operands

/-- The id that a pointer leads to, over at most `bound` access chains. -/
def rootWithin (chains : List (UInt32 × UInt32)) : (bound : Nat) → UInt32 → UInt32
  | 0, pointer => pointer
  | bound + 1, pointer =>
    match chains.lookup pointer with
    | some base => rootWithin chains bound base
    | none => pointer

def root (registry : Registry) (pointer : UInt32) : UInt32 :=
  rootWithin registry.chains registry.chains.length pointer

def openFunction (registry : Registry) (operands : List UInt32) : Except Fault Registry := do
  let (_, rest) ← word operands
  let (id, _) ← word rest
  return { registry with current := some (id, ⟨[], []⟩) }

def endFunction (registry : Registry) : Except Fault Registry :=
  match registry.current with
  | none => .error .functionEnd
  | some (id, use) =>
    if (registry.functions.lookup id).isSome then .error (.functionExists id)
    else .ok { registry with functions := (id, use) :: registry.functions, current := none }

def addCall (registry : Registry) (operands : List UInt32) : Except Fault Registry := do
  let (_, rest) ← word operands
  let (_, rest) ← word rest
  let (callee, _) ← word rest
  match registry.current with
  | none => .error .functionCall
  | some (id, use) =>
    return { registry with current := some (id, { use with callees := callee :: use.callees }) }

def addReference (registry : Registry) (pointer : UInt32) : Registry :=
  match registry.current with
  | none => registry
  | some (id, use) =>
    { registry with
      current := some (id, { use with globals := root registry pointer :: use.globals }) }

def addRead (registry : Registry) (operands : List UInt32) : Except Fault Registry := do
  let (_, rest) ← word operands
  let (_, rest) ← word rest
  let (pointer, _) ← word rest
  return addReference registry pointer

def addWrite (registry : Registry) (operands : List UInt32) : Except Fault Registry := do
  let (pointer, _) ← word operands
  return addReference registry pointer

def addChain (registry : Registry) (operands : List UInt32) : Except Fault Registry := do
  let (_, rest) ← word operands
  let (result, rest) ← word rest
  let (base, _) ← word rest
  if (registry.chains.lookup result).isSome then .error .accessChainExists
  else return { registry with chains := (result, base) :: registry.chains }

/-- Takes an instruction of the open function. -/
def bodyStep (registry : Registry) (instruction : Instruction) : Except Fault Registry :=
  let operands := instruction.operands
  match instruction.opcode with
  | .accessChain => addChain registry operands
  | .load => addRead registry operands
  | .atomicLoad => addRead registry operands
  | .atomicExchange => addRead registry operands
  | .atomicCompareExchange => addRead registry operands
  | .atomicCompareExchangeWeak => addRead registry operands
  | .atomicIIncrement => addRead registry operands
  | .atomicIDecrement => addRead registry operands
  | .atomicIAdd => addRead registry operands
  | .atomicISub => addRead registry operands
  | .atomicSMin => addRead registry operands
  | .atomicUMin => addRead registry operands
  | .atomicSMax => addRead registry operands
  | .atomicUMax => addRead registry operands
  | .atomicAnd => addRead registry operands
  | .atomicOr => addRead registry operands
  | .atomicXor => addRead registry operands
  | .store => addWrite registry operands
  | .atomicStore => addWrite registry operands
  | _ => .ok registry

/-- Functions, to the end of the module. -/
def functions : Step := fun registry instruction =>
  match instruction.opcode with
  | .line => .ok (some registry)
  | .noLine => .ok (some registry)
  | .function => (openFunction registry instruction.operands).map some
  | .functionEnd => (endFunction registry).map some
  | .functionCall => (addCall registry instruction.operands).map some
  | opcode =>
    if registry.current.isNone then .error (.unexpected opcode)
    else (bodyStep registry instruction).map some

def callees (registry : Registry) (function : UInt32) : List UInt32 :=
  match registry.functions.lookup function with
  | some use => use.callees
  | none => []

/-- The functions reached from a list of them, in at most `bound` calls; `seen` has been met. -/
def reachWithin (registry : Registry) : (bound : Nat) → (seen front : List UInt32) → List UInt32
  | 0, seen, _ => seen
  | bound + 1, seen, front =>
    let fresh := (front.filter (!seen.contains ·)).eraseDups
    if fresh.isEmpty then seen
    else reachWithin registry bound (seen ++ fresh) (fresh.flatMap (callees registry))

def reachable (registry : Registry) (function : UInt32) : List UInt32 :=
  reachWithin registry (registry.functions.length + 2) [] [function]

/-- The variables that a function and what it calls refer to. -/
def references (registry : Registry) (function : UInt32) : List UInt32 :=
  (reachable registry function).flatMap fun reached =>
    match registry.functions.lookup reached with
    | some use => use.globals
    | none => []

end ShaderInterface.Spirv.Resolution.Functions
