import ShaderInterface.Spirv.Ty

/-! Resolved variables: what an entry point declares at its interface, by type and place instead of
by id. -/
namespace ShaderInterface.Spirv

/-- How a descriptor binds what it stands for. -/
inductive DescriptorBinding
  | uniformBuffer
  | storageBuffer (access : Declared.Access)
  | sampledImage
  | storageImage (access : Declared.Access)
  | sampler
  | combinedImageSampler
  | inputAttachment
  | uniformTexelBuffer
  | storageTexelBuffer (access : Declared.Access)
  | accelerationStructure
  deriving DecidableEq

/-- A variable of an entry point's interface. A descriptor count of zero stands for an array sized
at run time. -/
inductive Resolved
  | descriptor (name : Option String) (set slot : UInt32) (binding : DescriptorBinding) (type : Ty)
      (count : UInt32)
  | pushConstant (name : Option String) (type : Ty)
  | input (name : Option String) (location component : UInt32) (type : Ty)
  | output (name : Option String) (location component : UInt32) (type : Ty)
  | specConstant (name : Option String) (specId : UInt32)
  deriving DecidableEq

namespace Resolved

def name? : Resolved → Option String
  | descriptor name _ _ _ _ _ => name
  | pushConstant name _ => name
  | input name _ _ _ => name
  | output name _ _ _ => name
  | specConstant name _ => name

end Resolved

end ShaderInterface.Spirv
