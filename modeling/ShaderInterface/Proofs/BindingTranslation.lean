import ShaderInterface.Binding.Descriptor
import ShaderInterface.Binding.PixelFormat

/-! What translation to a binding layout keeps. A kind and its descriptor are told by what they hold
and whether it is storage, the shape of an image by its extent, and a texel format by its channels
and how they are read. Each is written out for what is declared and for what is bound; translation
leaves it as it is, and it leaves no choice of what is bound. -/
namespace ShaderInterface

/-- What a descriptor hands to a shader. -/
inductive Content
  | buffer
  | image
  | texelBuffer
  | sampler
  | imageWithSampler
  | attachment
  | accelerationStructure
  | constants
  deriving DecidableEq

def Declared.Kind.content? : Declared.Kind → Option (Content × Bool)
  | .stageInput | .stageOutput => none
  | .uniformBuffer => some (.buffer, false)
  | .storageBuffer => some (.buffer, true)
  | .texture => some (.image, false)
  | .storageTexture => some (.image, true)
  | .uniformTexelBuffer => some (.texelBuffer, false)
  | .storageTexelBuffer => some (.texelBuffer, true)
  | .sampler => some (.sampler, false)
  | .combinedSampler => some (.imageWithSampler, false)
  | .subpassInput => some (.attachment, false)
  | .accelerationStructure => some (.accelerationStructure, false)
  | .pushConstant => some (.constants, false)

def DescriptorType.content? : DescriptorType → Option (Content × Bool)
  | undefined => none
  | uniformBuffer => some (.buffer, false)
  | rwBuffer => some (.buffer, true)
  | texture => some (.image, false)
  | rwTexture => some (.image, true)
  | texelBuffer => some (.texelBuffer, false)
  | rwTexelBuffer => some (.texelBuffer, true)
  | sampler => some (.sampler, false)
  | combinedImageSampler => some (.imageWithSampler, false)
  | inputAttachment => some (.attachment, false)
  | accelerationStructure => some (.accelerationStructure, false)
  | rootConstant => some (.constants, false)

inductive Room
  | line
  | plane
  | volume
  | cube
  deriving DecidableEq

/-- The shape of an image: its room, and whether it has samples and layers. -/
structure Shape where
  room : Room
  multisampled : Bool
  arrayed : Bool
  deriving DecidableEq

def Declared.Dimension.shape? : Declared.Dimension → Option Shape
  | .undefined | .buffer => none
  | .texture1D => some ⟨.line, false, false⟩
  | .texture1DArray => some ⟨.line, false, true⟩
  | .texture2D => some ⟨.plane, false, false⟩
  | .texture2DArray => some ⟨.plane, false, true⟩
  | .texture2DMS => some ⟨.plane, true, false⟩
  | .texture2DMSArray => some ⟨.plane, true, true⟩
  | .texture3D => some ⟨.volume, false, false⟩
  | .textureCube => some ⟨.cube, false, false⟩
  | .textureCubeArray => some ⟨.cube, false, true⟩

def TextureDimension.shape? : TextureDimension → Option Shape
  | undefined => none
  | dim1D => some ⟨.line, false, false⟩
  | dim1DArray => some ⟨.line, false, true⟩
  | dim2D => some ⟨.plane, false, false⟩
  | dim2DArray => some ⟨.plane, false, true⟩
  | dim2DMS => some ⟨.plane, true, false⟩
  | dim2DMSArray => some ⟨.plane, true, true⟩
  | dim3D => some ⟨.volume, false, false⟩
  | dimCube => some ⟨.cube, false, false⟩
  | dimCubeArray => some ⟨.cube, false, true⟩

/-- How the bits of a channel are read. -/
inductive Numeric
  | sfloat
  | ufloat
  | unorm
  | snorm
  | sint
  | uint
  deriving DecidableEq

/-- A texel: the bits of its channels, none for a channel that it lacks, and how they are read. -/
structure Texel where
  red : Nat
  green : Nat
  blue : Nat
  alpha : Nat
  numeric : Numeric
  deriving DecidableEq

namespace Texel

def r (bits : Nat) (numeric : Numeric) : Texel := ⟨bits, 0, 0, 0, numeric⟩

def rg (bits : Nat) (numeric : Numeric) : Texel := ⟨bits, bits, 0, 0, numeric⟩

def rgba (bits : Nat) (numeric : Numeric) : Texel := ⟨bits, bits, bits, bits, numeric⟩

end Texel

def Declared.Format.texel? : Declared.Format → Option Texel
  | .unknown => none
  | .r16f => some (.r 16 .sfloat)
  | .rg16f => some (.rg 16 .sfloat)
  | .rgba16f => some (.rgba 16 .sfloat)
  | .r32f => some (.r 32 .sfloat)
  | .rg32f => some (.rg 32 .sfloat)
  | .rgba32f => some (.rgba 32 .sfloat)
  | .r11fG11fB10f => some ⟨11, 11, 10, 0, .ufloat⟩
  | .r8 => some (.r 8 .unorm)
  | .rg8 => some (.rg 8 .unorm)
  | .rgba8 => some (.rgba 8 .unorm)
  | .r16 => some (.r 16 .unorm)
  | .rg16 => some (.rg 16 .unorm)
  | .rgba16 => some (.rgba 16 .unorm)
  | .rgb10A2 => some ⟨10, 10, 10, 2, .unorm⟩
  | .r8Snorm => some (.r 8 .snorm)
  | .rg8Snorm => some (.rg 8 .snorm)
  | .rgba8Snorm => some (.rgba 8 .snorm)
  | .r16Snorm => some (.r 16 .snorm)
  | .rg16Snorm => some (.rg 16 .snorm)
  | .rgba16Snorm => some (.rgba 16 .snorm)
  | .r8i => some (.r 8 .sint)
  | .rg8i => some (.rg 8 .sint)
  | .rgba8i => some (.rgba 8 .sint)
  | .r16i => some (.r 16 .sint)
  | .rg16i => some (.rg 16 .sint)
  | .rgba16i => some (.rgba 16 .sint)
  | .r32i => some (.r 32 .sint)
  | .rg32i => some (.rg 32 .sint)
  | .rgba32i => some (.rgba 32 .sint)
  | .r64i => some (.r 64 .sint)
  | .r8ui => some (.r 8 .uint)
  | .rg8ui => some (.rg 8 .uint)
  | .rgba8ui => some (.rgba 8 .uint)
  | .r16ui => some (.r 16 .uint)
  | .rg16ui => some (.rg 16 .uint)
  | .rgba16ui => some (.rgba 16 .uint)
  | .r32ui => some (.r 32 .uint)
  | .rg32ui => some (.rg 32 .uint)
  | .rgba32ui => some (.rgba 32 .uint)
  | .rgb10a2ui => some ⟨10, 10, 10, 2, .uint⟩
  | .r64ui => some (.r 64 .uint)

def PixelFormat.texel? : PixelFormat → Option Texel
  | undefined => none
  | r16Sfloat => some (.r 16 .sfloat)
  | r16g16Sfloat => some (.rg 16 .sfloat)
  | r16g16b16a16Sfloat => some (.rgba 16 .sfloat)
  | r32Sfloat => some (.r 32 .sfloat)
  | r32g32Sfloat => some (.rg 32 .sfloat)
  | r32g32b32a32Sfloat => some (.rgba 32 .sfloat)
  | b10g11r11Ufloat => some ⟨11, 11, 10, 0, .ufloat⟩
  | r8Unorm => some (.r 8 .unorm)
  | r8g8Unorm => some (.rg 8 .unorm)
  | r8g8b8a8Unorm => some (.rgba 8 .unorm)
  | r16Unorm => some (.r 16 .unorm)
  | r16g16Unorm => some (.rg 16 .unorm)
  | r16g16b16a16Unorm => some (.rgba 16 .unorm)
  | a2b10g10r10Unorm => some ⟨10, 10, 10, 2, .unorm⟩
  | r8Snorm => some (.r 8 .snorm)
  | r8g8Snorm => some (.rg 8 .snorm)
  | r8g8b8a8Snorm => some (.rgba 8 .snorm)
  | r16Snorm => some (.r 16 .snorm)
  | r16g16Snorm => some (.rg 16 .snorm)
  | r16g16b16a16Snorm => some (.rgba 16 .snorm)
  | r8Sint => some (.r 8 .sint)
  | r8g8Sint => some (.rg 8 .sint)
  | r8g8b8a8Sint => some (.rgba 8 .sint)
  | r16Sint => some (.r 16 .sint)
  | r16g16Sint => some (.rg 16 .sint)
  | r16g16b16a16Sint => some (.rgba 16 .sint)
  | r32Sint => some (.r 32 .sint)
  | r32g32Sint => some (.rg 32 .sint)
  | r32g32b32a32Sint => some (.rgba 32 .sint)
  | r64Sint => some (.r 64 .sint)
  | r8Uint => some (.r 8 .uint)
  | r8g8Uint => some (.rg 8 .uint)
  | r8g8b8a8Uint => some (.rgba 8 .uint)
  | r16Uint => some (.r 16 .uint)
  | r16g16Uint => some (.rg 16 .uint)
  | r16g16b16a16Uint => some (.rgba 16 .uint)
  | r32Uint => some (.r 32 .uint)
  | r32g32Uint => some (.rg 32 .uint)
  | r32g32b32a32Uint => some (.rgba 32 .uint)
  | a2b10g10r10Uint => some ⟨10, 10, 10, 2, .uint⟩
  | r64Uint => some (.r 64 .uint)

/-- A value that is the first of a list with its image is the only one with it. -/
theorem eq_of_find?_eq_some {α β : Type} [DecidableEq β] {image : α → β} (all : List α)
    (first : ∀ value, all.find? (image · = image value) = some value) {one other : α}
    (same : image one = image other) : one = other := by
  have found := first one
  rw [same, first other] at found
  exact (Option.some.inj found).symm

theorem DescriptorType.eq_of_content?_eq {one other : DescriptorType}
    (same : one.content? = other.content?) : one = other := by
  cases one <;> cases other <;> first | rfl | cases same

theorem TextureDimension.eq_of_shape?_eq {one other : TextureDimension}
    (same : one.shape? = other.shape?) : one = other := by
  cases one <;> cases other <;> first | rfl | cases same

namespace Declared

section Kind

variable {one other : Kind}

theorem Kind.content?_descriptor (kind : Kind) : kind.descriptor.content? = kind.content? := by
  cases kind <;> rfl

theorem Kind.descriptor_eq_undefined_iff (kind : Kind) :
    kind.descriptor = .undefined ↔ kind = .stageInput ∨ kind = .stageOutput := by
  cases kind <;> simp [descriptor]

theorem Kind.descriptor_inj (takes : one.descriptor ≠ .undefined) :
    one.descriptor = other.descriptor ↔ one = other := by
  refine ⟨fun same => ?_, congrArg _⟩
  have contents := congrArg DescriptorType.content? same
  rw [content?_descriptor, content?_descriptor] at contents
  cases one <;> cases other <;> first | rfl | exact absurd rfl takes | cases contents

end Kind

section Dimension

variable {one other : Dimension}

theorem Dimension.shape?_texture (dimension : Dimension) :
    dimension.texture.shape? = dimension.shape? := by
  cases dimension <;> rfl

theorem Dimension.texture_eq_undefined_iff (dimension : Dimension) :
    dimension.texture = .undefined ↔ dimension = .undefined ∨ dimension = .buffer := by
  cases dimension <;> simp [texture]

theorem Dimension.texture_inj (shaped : one.texture ≠ .undefined) :
    one.texture = other.texture ↔ one = other := by
  refine ⟨fun same => ?_, congrArg _⟩
  have shapes := congrArg TextureDimension.shape? same
  rw [shape?_texture, shape?_texture] at shapes
  cases one <;> cases other <;> first | rfl | exact absurd rfl shaped | cases shapes

end Dimension

section Access

variable {one other : Access}

def Access.reads : Access → Bool
  | readOnly | readWrite => true
  | writeOnly => false

def Access.writes : Access → Bool
  | writeOnly | readWrite => true
  | readOnly => false

/-- Reading takes the first bit, writing the second, and no other bit is set. -/
theorem Access.bits_directions (access : Access) : access.directions.bits.toNat =
    (if access.reads then 1 else 0) + (if access.writes then 2 else 0) := by
  cases access <;> rfl

theorem Access.bits_directions_ne_zero (access : Access) : access.directions.bits ≠ 0 := by
  cases access <;> decide

theorem Access.directions_inj : one.directions = other.directions ↔ one = other := by
  cases one <;> cases other <;> decide

end Access

section Format

variable {one other : Format}

theorem Format.texel?_pixel (format : Format) : format.pixel.texel? = format.texel? := by
  cases format <;> rfl

theorem Format.eq_of_texel?_eq (same : one.texel? = other.texel?) : one = other := by
  refine eq_of_find?_eq_some all (fun format => ?_) same
  cases format <;> decide

theorem Format.pixel_inj : one.pixel = other.pixel ↔ one = other := by
  refine ⟨fun same => eq_of_texel?_eq ?_, congrArg _⟩
  rw [← texel?_pixel, ← texel?_pixel, same]

/-- Only an unknown format has no pixel format. -/
theorem Format.pixel_eq_undefined_iff (format : Format) :
    format.pixel = .undefined ↔ format = .unknown := by
  show format.pixel = unknown.pixel ↔ format = unknown
  exact pixel_inj

end Format

end Declared

theorem PixelFormat.exists_pixel_eq (format : PixelFormat) :
    ∃ declared ∈ Declared.Format.all, declared.pixel = format := by
  cases format <;> decide

theorem PixelFormat.eq_of_texel?_eq {one other : PixelFormat} (same : one.texel? = other.texel?) :
    one = other := by
  obtain ⟨first, -, rfl⟩ := exists_pixel_eq one
  obtain ⟨second, -, rfl⟩ := exists_pixel_eq other
  rw [Declared.Format.texel?_pixel, Declared.Format.texel?_pixel] at same
  rw [Declared.Format.eq_of_texel?_eq same]

end ShaderInterface
