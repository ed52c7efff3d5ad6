/-! What a shader module declares about a bindable thing: its kind, the shape of an image, and how
the shader may reach it. -/
namespace ShaderInterface.Declared

/-- The kinds of things a shader declares at its interface. -/
inductive Kind
  | stageInput
  | stageOutput
  | uniformBuffer
  | storageBuffer
  | texture
  | storageTexture
  | sampler
  | pushConstant
  | subpassInput
  | uniformTexelBuffer
  | storageTexelBuffer
  | accelerationStructure
  | combinedSampler
  deriving DecidableEq

namespace Kind

def all : List Kind :=
  [stageInput, stageOutput, uniformBuffer, storageBuffer, texture, storageTexture, sampler,
   pushConstant, subpassInput, uniformTexelBuffer, storageTexelBuffer, accelerationStructure,
   combinedSampler]

def name : Kind → String
  | stageInput => "StageInput"
  | stageOutput => "StageOutput"
  | uniformBuffer => "UniformBuffer"
  | storageBuffer => "StorageBuffer"
  | texture => "Texture"
  | storageTexture => "StorageTexture"
  | sampler => "Sampler"
  | pushConstant => "PushConstant"
  | subpassInput => "SubpassInput"
  | uniformTexelBuffer => "UniformTexelBuffer"
  | storageTexelBuffer => "StorageTexelBuffer"
  | accelerationStructure => "AccelerationStructure"
  | combinedSampler => "CombinedSampler"

def ordinal (value : Kind) : Nat := all.idxOf value

end Kind

/-- The shape of an image. -/
inductive Dimension
  | undefined
  | buffer
  | texture1D
  | texture1DArray
  | texture2D
  | texture2DArray
  | texture2DMS
  | texture2DMSArray
  | texture3D
  | textureCube
  | textureCubeArray
  deriving DecidableEq

namespace Dimension

def all : List Dimension :=
  [undefined, buffer, texture1D, texture1DArray, texture2D, texture2DArray, texture2DMS,
   texture2DMSArray, texture3D, textureCube, textureCubeArray]

def name : Dimension → String
  | undefined => "Undefined"
  | buffer => "Buffer"
  | texture1D => "Texture1D"
  | texture1DArray => "Texture1DArray"
  | texture2D => "Texture2D"
  | texture2DArray => "Texture2DArray"
  | texture2DMS => "Texture2DMS"
  | texture2DMSArray => "Texture2DMSArray"
  | texture3D => "Texture3D"
  | textureCube => "TextureCube"
  | textureCubeArray => "TextureCubeArray"

def ordinal (value : Dimension) : Nat := all.idxOf value

end Dimension

/-- How the shader may reach the contents. -/
inductive Access
  | readOnly
  | writeOnly
  | readWrite
  deriving DecidableEq

namespace Access

def all : List Access :=
  [readOnly, writeOnly, readWrite]

def name : Access → String
  | readOnly => "ReadOnly"
  | writeOnly => "WriteOnly"
  | readWrite => "ReadWrite"

def ordinal (value : Access) : Nat := all.idxOf value

end Access

end ShaderInterface.Declared
