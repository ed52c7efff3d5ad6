import ShaderInterface.Declared.Format

/-! Pixel formats of a binding layout, and the one that each declared texel format stands for. -/
namespace ShaderInterface

/-- A pixel format: the bits of each channel, then how they are read. -/
inductive PixelFormat
  | undefined
  | r32Sfloat
  | r32g32Sfloat
  | r32g32b32a32Sfloat
  | r16Sfloat
  | r16g16Sfloat
  | r16g16b16a16Sfloat
  | b10g11r11Ufloat
  | r8Unorm
  | r8g8Unorm
  | r8g8b8a8Unorm
  | r16Unorm
  | r16g16Unorm
  | r16g16b16a16Unorm
  | a2b10g10r10Unorm
  | r8Snorm
  | r8g8Snorm
  | r8g8b8a8Snorm
  | r16Snorm
  | r16g16Snorm
  | r16g16b16a16Snorm
  | r8Sint
  | r8g8Sint
  | r8g8b8a8Sint
  | r16Sint
  | r16g16Sint
  | r16g16b16a16Sint
  | r32Sint
  | r32g32Sint
  | r32g32b32a32Sint
  | r64Sint
  | r8Uint
  | r8g8Uint
  | r8g8b8a8Uint
  | r16Uint
  | r16g16Uint
  | r16g16b16a16Uint
  | r32Uint
  | r32g32Uint
  | r32g32b32a32Uint
  | a2b10g10r10Uint
  | r64Uint
  deriving DecidableEq

namespace PixelFormat

def name : PixelFormat → String
  | undefined => "UNDEFINED"
  | r32Sfloat => "R32_SFLOAT"
  | r32g32Sfloat => "R32G32_SFLOAT"
  | r32g32b32a32Sfloat => "R32G32B32A32_SFLOAT"
  | r16Sfloat => "R16_SFLOAT"
  | r16g16Sfloat => "R16G16_SFLOAT"
  | r16g16b16a16Sfloat => "R16G16B16A16_SFLOAT"
  | b10g11r11Ufloat => "B10G11R11_UFLOAT"
  | r8Unorm => "R8_UNORM"
  | r8g8Unorm => "R8G8_UNORM"
  | r8g8b8a8Unorm => "R8G8B8A8_UNORM"
  | r16Unorm => "R16_UNORM"
  | r16g16Unorm => "R16G16_UNORM"
  | r16g16b16a16Unorm => "R16G16B16A16_UNORM"
  | a2b10g10r10Unorm => "A2B10G10R10_UNORM"
  | r8Snorm => "R8_SNORM"
  | r8g8Snorm => "R8G8_SNORM"
  | r8g8b8a8Snorm => "R8G8B8A8_SNORM"
  | r16Snorm => "R16_SNORM"
  | r16g16Snorm => "R16G16_SNORM"
  | r16g16b16a16Snorm => "R16G16B16A16_SNORM"
  | r8Sint => "R8_SINT"
  | r8g8Sint => "R8G8_SINT"
  | r8g8b8a8Sint => "R8G8B8A8_SINT"
  | r16Sint => "R16_SINT"
  | r16g16Sint => "R16G16_SINT"
  | r16g16b16a16Sint => "R16G16B16A16_SINT"
  | r32Sint => "R32_SINT"
  | r32g32Sint => "R32G32_SINT"
  | r32g32b32a32Sint => "R32G32B32A32_SINT"
  | r64Sint => "R64_SINT"
  | r8Uint => "R8_UINT"
  | r8g8Uint => "R8G8_UINT"
  | r8g8b8a8Uint => "R8G8B8A8_UINT"
  | r16Uint => "R16_UINT"
  | r16g16Uint => "R16G16_UINT"
  | r16g16b16a16Uint => "R16G16B16A16_UINT"
  | r32Uint => "R32_UINT"
  | r32g32Uint => "R32G32_UINT"
  | r32g32b32a32Uint => "R32G32B32A32_UINT"
  | a2b10g10r10Uint => "A2B10G10R10_UINT"
  | r64Uint => "R64_UINT"

end PixelFormat

/-- The pixel format of a declared texel format. -/
def Declared.Format.pixel : Declared.Format → PixelFormat
  | .unknown => .undefined
  | .rgba32f => .r32g32b32a32Sfloat
  | .rgba16f => .r16g16b16a16Sfloat
  | .r32f => .r32Sfloat
  | .rgba8 => .r8g8b8a8Unorm
  | .rgba8Snorm => .r8g8b8a8Snorm
  | .rg32f => .r32g32Sfloat
  | .rg16f => .r16g16Sfloat
  | .r11fG11fB10f => .b10g11r11Ufloat
  | .r16f => .r16Sfloat
  | .rgba16 => .r16g16b16a16Unorm
  | .rgb10A2 => .a2b10g10r10Unorm
  | .rg16 => .r16g16Unorm
  | .rg8 => .r8g8Unorm
  | .r16 => .r16Unorm
  | .r8 => .r8Unorm
  | .rgba16Snorm => .r16g16b16a16Snorm
  | .rg16Snorm => .r16g16Snorm
  | .rg8Snorm => .r8g8Snorm
  | .r16Snorm => .r16Snorm
  | .r8Snorm => .r8Snorm
  | .rgba32i => .r32g32b32a32Sint
  | .rgba16i => .r16g16b16a16Sint
  | .rgba8i => .r8g8b8a8Sint
  | .r32i => .r32Sint
  | .rg32i => .r32g32Sint
  | .rg16i => .r16g16Sint
  | .rg8i => .r8g8Sint
  | .r16i => .r16Sint
  | .r8i => .r8Sint
  | .rgba32ui => .r32g32b32a32Uint
  | .rgba16ui => .r16g16b16a16Uint
  | .rgba8ui => .r8g8b8a8Uint
  | .r32ui => .r32Uint
  | .rgb10a2ui => .a2b10g10r10Uint
  | .rg32ui => .r32g32Uint
  | .rg16ui => .r16g16Uint
  | .rg8ui => .r8g8Uint
  | .r16ui => .r16Uint
  | .r8ui => .r8Uint
  | .r64ui => .r64Uint
  | .r64i => .r64Sint

end ShaderInterface
