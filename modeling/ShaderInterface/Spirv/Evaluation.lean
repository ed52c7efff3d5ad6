import ShaderInterface.Spirv.Value

/-! Evaluating operations on specialization constants. Only scalars of fitting types are evaluated;
integers of 32 bits mix freely with each other whatever their signedness. -/
namespace ShaderInterface.Spirv.Evaluation

open Number

/-- A 32-bit integer of a scalar type, the low bits of a number. -/
def word? (result : Scalar) (value : Int) : Option Value :=
  match result with
  | .integer 32 signed => some (.ofInt .w32 signed value)
  | _ => none

def convert? (result : Scalar) (signed : Bool) (value : Int) : Option Value :=
  match result with
  | .integer bits isSigned =>
    if isSigned = signed then (Width.ofBits? bits).map fun width => .ofInt width signed value
    else none
  | _ => none

def single? (result : Scalar) (bits : UInt32) : Option Value :=
  if result = .float 32 then some (.single bits) else none

def unsigned64 (value : Int) : Int := value.emod Width.w64.modulus

def unsigned32 (value : Int) : Nat := (value.emod Width.w32.modulus).toNat

def distance (value : Int) : Nat := unsigned32 value % 32

def arithmetic? : Opcode → Option (Int → Int → Int)
  | .iAdd => some (· + ·)
  | .iSub => some (· - ·)
  | .iMul => some (· * ·)
  | .sDiv => some Int.tdiv
  | .uDiv => some fun a b => unsigned64 a / unsigned64 b
  | .uMod => some fun a b => unsigned64 a % unsigned64 b
  | .shiftRightLogical => some fun a b => (unsigned32 a >>> distance b : Nat)
  | .shiftRightArithmetic => some fun a b => a.bmod Width.w32.modulus >>> distance b
  | .shiftLeftLogical => some fun a b => (unsigned32 a <<< distance b : Nat)
  | .bitwiseOr => some fun a b => (unsigned32 a ||| unsigned32 b : Nat)
  | .bitwiseXor => some fun a b => (unsigned32 a ^^^ unsigned32 b : Nat)
  | .bitwiseAnd => some fun a b => (unsigned32 a &&& unsigned32 b : Nat)
  | _ => none

/-- The remainders, which only signed results are defined for. -/
def remainder? : Opcode → Option (Int → Int → Int)
  | .sRem => some Int.tmod
  | .sMod => some Int.emod
  | _ => none

def comparison? : Opcode → Option (Int → Int → Bool)
  | .iEqual => some (· == ·)
  | .iNotEqual => some (· != ·)
  | _ => none

def floating? : Opcode → Option (UInt32 → UInt32 → UInt32)
  | .fAdd => some Binary32.add
  | .fSub => some Binary32.sub
  | .fMul => some Binary32.mul
  | .fDiv => some Binary32.div
  | .fRem => some Binary32.rem
  | .fMod => some Binary32.mod
  | _ => none

def integers? (opcode : Opcode) (a b : Int) (result : Scalar) : Option Value :=
  match arithmetic? opcode, remainder? opcode, comparison? opcode with
  | some operation, _, _ => word? result (operation a b)
  | none, some operation, _ =>
    if result = .integer 32 true then word? result (operation a b) else none
  | none, none, some compare =>
    if result = .boolean then some (.bool (compare a b)) else none
  | none, none, none => none

def unary? (opcode : Opcode) (operand : Value) (result : Scalar) : Option Value :=
  match opcode, operand with
  | .convertFToS, .single bits =>
    if result = .integer 32 true then
      word? result (Binary32.toInt bits (-2147483648) 2147483647)
    else none
  | .convertFToU, .single bits =>
    if result = .integer 32 false then word? result (Binary32.toInt bits 0 4294967295) else none
  | .convertSToF, .signed .w32 value => single? result (Binary32.ofInt value)
  | .convertUToF, .unsigned .w32 value => single? result (Binary32.ofInt value)
  | .sConvert, .signed _ value => convert? result true value
  | .uConvert, .unsigned _ value => convert? result false value
  | .fConvert, .single bits => single? result bits
  | .bitcast, operand =>
    operand.pattern?.bind fun bits => (word? result bits.toNat).or (single? result bits)
  | .sNegate, .signed .w32 value =>
    if result = .integer 32 true then word? result (-value) else none
  | .fNegate, .single bits => single? result (Binary32.neg bits)
  | .not, operand => operand.int32?.bind fun value => word? result (-value - 1)
  | _, _ => none

def binary? (opcode : Opcode) (a b : Value) (result : Scalar) : Option Value :=
  match a, b with
  | .single a, .single b => (floating? opcode).bind fun operation => single? result (operation a b)
  | a, b =>
    match a.int32?, b.int32? with
    | some a, some b => integers? opcode a b result
    | _, _ => none

/-- The value of an operation as a value of a type. -/
def evaluate? (opcode : Opcode) (operands : List Value) (type : Ty) : Option Value :=
  match type, operands with
  | .scalar result, [a] => unary? opcode a result
  | .scalar result, [a, b] => binary? opcode a b result
  | _, _ => none

end ShaderInterface.Spirv.Evaluation
