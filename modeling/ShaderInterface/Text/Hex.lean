/-! Lower-case hexadecimal text of numbers, of the fewest digits or padded to a fixed width. -/
namespace ShaderInterface.Text.Hex

def digit (value : Nat) : Char :=
  if value < 10 then Char.ofNat (48 + value) else Char.ofNat (87 + value)

def digits : Nat → Nat → List Char
  | 0, _ => []
  | count + 1, value => digits count (value / 16) ++ [digit (value % 16)]

/-- Exactly `width` digits, so a larger number loses its leading ones. -/
def padded (width value : Nat) : String :=
  String.ofList (digits width value)

def shortest (value : Nat) : String :=
  padded (Nat.log2 value / 4 + 1) value

end ShaderInterface.Text.Hex
