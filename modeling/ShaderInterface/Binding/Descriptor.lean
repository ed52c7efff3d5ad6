import ShaderInterface.Declared.Kind

/-! What a binding layout needs to know of a resource: which descriptor it takes, the shape of a
texture, and the directions of access. Every declared kind, shape and access has its counterpart. -/
namespace ShaderInterface

/-- The descriptor a resource takes in a binding layout. -/
inductive DescriptorType
  | undefined
  | sampler
  | texture
  | rwTexture
  | rwBuffer
  | uniformBuffer
  | rootConstant
  | inputAttachment
  | texelBuffer
  | rwTexelBuffer
  | accelerationStructure
  | combinedImageSampler
  deriving DecidableEq

namespace DescriptorType

def name : DescriptorType → String
  | undefined => "Undefined"
  | sampler => "Sampler"
  | texture => "Texture"
  | rwTexture => "RwTexture"
  | rwBuffer => "RwBuffer"
  | uniformBuffer => "UniformBuffer"
  | rootConstant => "RootConstant"
  | inputAttachment => "InputAttachment"
  | texelBuffer => "TexelBuffer"
  | rwTexelBuffer => "RwTexelBuffer"
  | accelerationStructure => "AccelerationStructure"
  | combinedImageSampler => "CombinedImageSampler"

end DescriptorType

inductive TextureDimension
  | undefined
  | dim1D
  | dim2D
  | dim2DMS
  | dim3D
  | dimCube
  | dim1DArray
  | dim2DArray
  | dim2DMSArray
  | dimCubeArray
  deriving DecidableEq

namespace TextureDimension

def name : TextureDimension → String
  | undefined => "Undefined"
  | dim1D => "Dim1D"
  | dim2D => "Dim2D"
  | dim2DMS => "Dim2DMS"
  | dim3D => "Dim3D"
  | dimCube => "DimCube"
  | dim1DArray => "Dim1DArray"
  | dim2DArray => "Dim2DArray"
  | dim2DMSArray => "Dim2DMSArray"
  | dimCubeArray => "DimCubeArray"

end TextureDimension

/-- The directions in which a shader accesses a resource, as a word with one bit for each. -/
structure ResourceAccess where
  bits : UInt32
  deriving DecidableEq

namespace ResourceAccess

def read : ResourceAccess := ⟨0x01⟩

def write : ResourceAccess := ⟨0x02⟩

def readWrite : ResourceAccess := ⟨read.bits ||| write.bits⟩

end ResourceAccess

namespace Declared

def Kind.descriptor : Kind → DescriptorType
  | .stageInput => .undefined
  | .stageOutput => .undefined
  | .uniformBuffer => .uniformBuffer
  | .storageBuffer => .rwBuffer
  | .texture => .texture
  | .storageTexture => .rwTexture
  | .sampler => .sampler
  | .pushConstant => .rootConstant
  | .subpassInput => .inputAttachment
  | .uniformTexelBuffer => .texelBuffer
  | .storageTexelBuffer => .rwTexelBuffer
  | .accelerationStructure => .accelerationStructure
  | .combinedSampler => .combinedImageSampler

/-- The texture shape of a declared shape; a buffer has none. -/
def Dimension.texture : Dimension → TextureDimension
  | .undefined => .undefined
  | .buffer => .undefined
  | .texture1D => .dim1D
  | .texture1DArray => .dim1DArray
  | .texture2D => .dim2D
  | .texture2DArray => .dim2DArray
  | .texture2DMS => .dim2DMS
  | .texture2DMSArray => .dim2DMSArray
  | .texture3D => .dim3D
  | .textureCube => .dimCube
  | .textureCubeArray => .dimCubeArray

def Access.directions : Access → ResourceAccess
  | .readOnly => .read
  | .writeOnly => .write
  | .readWrite => .readWrite

end Declared

end ShaderInterface
