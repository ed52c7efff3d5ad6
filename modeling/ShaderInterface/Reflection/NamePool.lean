import ShaderInterface.Text.Utf8

/-! The name pool of a reflection: every name once, in the order of writing, each followed by a zero
byte. Records refer to their names by offset and length. -/
namespace ShaderInterface

/-- A range of pool bytes that holds a name, without the zero byte behind it. -/
structure NameRef where
  offset : UInt32
  len : UInt32
  deriving DecidableEq

namespace NameRef

def start (ref : NameRef) : Nat := ref.offset.toNat

def stop (ref : NameRef) : Nat := ref.offset.toNat + ref.len.toNat

end NameRef

structure NamePool where
  bytes : List UInt8
  deriving DecidableEq

namespace NamePool

def empty : NamePool := ⟨[]⟩

def size (pool : NamePool) : Nat := pool.bytes.length

/-- The bytes that a name takes, its zero byte included. -/
def cost (name : String) : Nat := Text.Utf8.size name + 1

def totalCost : List String → Nat
  | [] => 0
  | name :: rest => cost name + totalCost rest

/-- Writes a name at the end. -/
def push (pool : NamePool) (name : String) : NamePool × NameRef :=
  (⟨pool.bytes ++ Text.Utf8.encode name ++ [0]⟩,
   ⟨.ofNat pool.size, .ofNat (Text.Utf8.size name)⟩)

def slice? (pool : NamePool) (start stop : Nat) : Option (List UInt8) :=
  if stop ≤ pool.size then some ((pool.bytes.drop start).take (stop - start)) else none

/-- The text of a range; a range that leaves the pool or cuts a character reads as empty text. -/
def name (pool : NamePool) (ref : NameRef) : String :=
  match pool.slice? ref.start ref.stop with
  | some bytes => (Text.Utf8.decode bytes).toOption.getD ""
  | none => ""

end NamePool

end ShaderInterface
