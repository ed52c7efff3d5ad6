/-! Texel formats that a storage image may declare. They are numbered as the image format operand of
a module is. -/
namespace ShaderInterface.Declared

inductive Format
  | unknown
  | rgba32f
  | rgba16f
  | r32f
  | rgba8
  | rgba8Snorm
  | rg32f
  | rg16f
  | r11fG11fB10f
  | r16f
  | rgba16
  | rgb10A2
  | rg16
  | rg8
  | r16
  | r8
  | rgba16Snorm
  | rg16Snorm
  | rg8Snorm
  | r16Snorm
  | r8Snorm
  | rgba32i
  | rgba16i
  | rgba8i
  | r32i
  | rg32i
  | rg16i
  | rg8i
  | r16i
  | r8i
  | rgba32ui
  | rgba16ui
  | rgba8ui
  | r32ui
  | rgb10a2ui
  | rg32ui
  | rg16ui
  | rg8ui
  | r16ui
  | r8ui
  | r64ui
  | r64i
  deriving DecidableEq

namespace Format

def all : List Format :=
  [unknown, rgba32f, rgba16f, r32f, rgba8, rgba8Snorm, rg32f, rg16f, r11fG11fB10f, r16f, rgba16,
   rgb10A2, rg16, rg8, r16, r8, rgba16Snorm, rg16Snorm, rg8Snorm, r16Snorm, r8Snorm, rgba32i,
   rgba16i, rgba8i, r32i, rg32i, rg16i, rg8i, r16i, r8i, rgba32ui, rgba16ui, rgba8ui, r32ui,
   rgb10a2ui, rg32ui, rg16ui, rg8ui, r16ui, r8ui, r64ui, r64i]

def name : Format → String
  | unknown => "Unknown"
  | rgba32f => "Rgba32f"
  | rgba16f => "Rgba16f"
  | r32f => "R32f"
  | rgba8 => "Rgba8"
  | rgba8Snorm => "Rgba8Snorm"
  | rg32f => "Rg32f"
  | rg16f => "Rg16f"
  | r11fG11fB10f => "R11fG11fB10f"
  | r16f => "R16f"
  | rgba16 => "Rgba16"
  | rgb10A2 => "Rgb10A2"
  | rg16 => "Rg16"
  | rg8 => "Rg8"
  | r16 => "R16"
  | r8 => "R8"
  | rgba16Snorm => "Rgba16Snorm"
  | rg16Snorm => "Rg16Snorm"
  | rg8Snorm => "Rg8Snorm"
  | r16Snorm => "R16Snorm"
  | r8Snorm => "R8Snorm"
  | rgba32i => "Rgba32i"
  | rgba16i => "Rgba16i"
  | rgba8i => "Rgba8i"
  | r32i => "R32i"
  | rg32i => "Rg32i"
  | rg16i => "Rg16i"
  | rg8i => "Rg8i"
  | r16i => "R16i"
  | r8i => "R8i"
  | rgba32ui => "Rgba32ui"
  | rgba16ui => "Rgba16ui"
  | rgba8ui => "Rgba8ui"
  | r32ui => "R32ui"
  | rgb10a2ui => "Rgb10a2ui"
  | rg32ui => "Rg32ui"
  | rg16ui => "Rg16ui"
  | rg8ui => "Rg8ui"
  | r16ui => "R16ui"
  | r8ui => "R8ui"
  | r64ui => "R64ui"
  | r64i => "R64i"

def ordinal (value : Format) : Nat := all.idxOf value

/-- The format that an operand stands for, if it stands for one. -/
def ofOperand? (operand : UInt32) : Option Format := all[operand.toNat]?

end Format

end ShaderInterface.Declared
