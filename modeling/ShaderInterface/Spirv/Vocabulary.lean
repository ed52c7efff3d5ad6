/-! The numbered vocabularies of the instruction set. Each is known by the numbers it takes; those
the library speaks of have names. -/
namespace ShaderInterface.Spirv

/-- The numbers of a vocabulary: inclusive ranges, ascending. -/
abbrev Numbers := List (Nat × Nat)

def Numbers.has (numbers : Numbers) (word : UInt32) : Bool :=
  numbers.any fun (first, last) => first ≤ word.toNat && word.toNat ≤ last

/-- The kind of pipeline stage an entry point is written for. -/
structure ExecutionModel where
  number : UInt32
  deriving DecidableEq

namespace ExecutionModel

def numbers : Numbers :=
  [(0, 6), (5267, 5268), (5313, 5318), (5364, 5365)]

def ofNumber? (word : UInt32) : Option ExecutionModel :=
  if numbers.has word then some ⟨word⟩ else none

end ExecutionModel

/-- The memory that a variable lives in. -/
structure StorageClass where
  number : UInt32
  deriving DecidableEq

namespace StorageClass

def numbers : Numbers :=
  [(0, 12), (4172, 4172), (5068, 5068), (5076, 5076), (5328, 5329), (5338, 5339), (5342, 5343),
   (5349, 5349), (5385, 5385), (5402, 5402), (5605, 5605), (5936, 5937)]

def names : List (Nat × String) :=
  [(0, "UniformConstant"), (1, "Input"), (2, "Uniform"), (3, "Output"), (4, "Workgroup"),
   (5, "CrossWorkgroup"), (6, "Private"), (7, "Function"), (8, "Generic"), (9, "PushConstant"),
   (10, "AtomicCounter"), (11, "Image"), (12, "StorageBuffer"), (4172, "TileImageEXT"),
   (5068, "NodePayloadAMDX"), (5076, "NodeOutputPayloadAMDX"), (5328, "CallableDataNV"),
   (5329, "IncomingCallableDataNV"), (5338, "RayPayloadNV"), (5339, "HitAttributeNV"),
   (5342, "IncomingRayPayloadNV"), (5343, "ShaderRecordBufferNV"),
   (5349, "PhysicalStorageBuffer"), (5385, "HitObjectAttributeNV"),
   (5402, "TaskPayloadWorkgroupEXT"), (5605, "CodeSectionINTEL"), (5936, "DeviceOnlyINTEL"),
   (5937, "HostOnlyINTEL")]

def text (storage : StorageClass) : String :=
  (names.lookup storage.number.toNat).getD (toString storage.number.toNat)

def ofNumber? (word : UInt32) : Option StorageClass :=
  if numbers.has word then some ⟨word⟩ else none

@[match_pattern] abbrev uniformConstant : StorageClass := ⟨0⟩
@[match_pattern] abbrev input : StorageClass := ⟨1⟩
@[match_pattern] abbrev uniform : StorageClass := ⟨2⟩
@[match_pattern] abbrev output : StorageClass := ⟨3⟩
@[match_pattern] abbrev pushConstant : StorageClass := ⟨9⟩
@[match_pattern] abbrev storageBuffer : StorageClass := ⟨12⟩

end StorageClass

/-- A property that a module attaches to an id or to a member of a struct. -/
structure Decoration where
  number : UInt32
  deriving DecidableEq

namespace Decoration

def numbers : Numbers :=
  [(0, 11), (13, 47), (4469, 4470), (4487, 4488), (4999, 4999), (5019, 5020), (5078, 5078),
   (5091, 5091), (5248, 5248), (5250, 5250), (5252, 5252), (5256, 5256), (5271, 5273),
   (5285, 5285), (5300, 5300), (5355, 5356), (5386, 5386), (5398, 5401), (5599, 5599),
   (5602, 5602), (5607, 5608), (5624, 5628), (5634, 5636), (5822, 5823), (5825, 5836),
   (5899, 5902), (5905, 5905), (5907, 5907), (5909, 5909), (5914, 5915), (5917, 5919),
   (5921, 5921), (5944, 5944), (6080, 6080), (6085, 6085), (6087, 6087), (6140, 6140),
   (6147, 6148), (6168, 6168), (6170, 6170), (6172, 6173), (6175, 6183), (6442, 6443)]

def ofNumber? (word : UInt32) : Option Decoration :=
  if numbers.has word then some ⟨word⟩ else none

@[match_pattern] abbrev specId : Decoration := ⟨1⟩
@[match_pattern] abbrev bufferBlock : Decoration := ⟨3⟩
@[match_pattern] abbrev rowMajor : Decoration := ⟨4⟩
@[match_pattern] abbrev colMajor : Decoration := ⟨5⟩
@[match_pattern] abbrev arrayStride : Decoration := ⟨6⟩
@[match_pattern] abbrev matrixStride : Decoration := ⟨7⟩
@[match_pattern] abbrev nonWritable : Decoration := ⟨24⟩
@[match_pattern] abbrev nonReadable : Decoration := ⟨25⟩
@[match_pattern] abbrev location : Decoration := ⟨30⟩
@[match_pattern] abbrev component : Decoration := ⟨31⟩
@[match_pattern] abbrev binding : Decoration := ⟨33⟩
@[match_pattern] abbrev descriptorSet : Decoration := ⟨34⟩
@[match_pattern] abbrev offset : Decoration := ⟨35⟩

end Decoration

/-- A property of an entry point. -/
structure ExecutionMode where
  number : UInt32
  deriving DecidableEq

namespace ExecutionMode

def numbers : Numbers :=
  [(0, 12), (14, 31), (33, 39), (4169, 4171), (4421, 4421), (4446, 4446), (4459, 4463),
   (5017, 5017), (5027, 5027), (5069, 5069), (5071, 5073), (5077, 5077), (5079, 5084),
   (5269, 5270), (5289, 5290), (5298, 5298), (5366, 5371), (5618, 5618), (5620, 5623),
   (5893, 5896), (5903, 5903), (6154, 6154), (6160, 6160), (6417, 6417)]

def ofNumber? (word : UInt32) : Option ExecutionMode :=
  if numbers.has word then some ⟨word⟩ else none

@[match_pattern] abbrev localSize : ExecutionMode := ⟨17⟩
@[match_pattern] abbrev outputVertices : ExecutionMode := ⟨26⟩
@[match_pattern] abbrev localSizeId : ExecutionMode := ⟨38⟩

end ExecutionMode

/-- How a module addresses memory. -/
structure AddressingModel where
  number : UInt32
  deriving DecidableEq

namespace AddressingModel

def numbers : Numbers :=
  [(0, 2), (5348, 5348)]

def ofNumber? (word : UInt32) : Option AddressingModel :=
  if numbers.has word then some ⟨word⟩ else none

@[match_pattern] abbrev logical : AddressingModel := ⟨0⟩
@[match_pattern] abbrev physicalStorageBuffer64 : AddressingModel := ⟨5348⟩

end AddressingModel

/-- The rules under which a module shares memory. -/
structure MemoryModel where
  number : UInt32
  deriving DecidableEq

namespace MemoryModel

def numbers : Numbers :=
  [(0, 3)]

def ofNumber? (word : UInt32) : Option MemoryModel :=
  if numbers.has word then some ⟨word⟩ else none

@[match_pattern] abbrev glsl450 : MemoryModel := ⟨1⟩
@[match_pattern] abbrev vulkan : MemoryModel := ⟨3⟩

end MemoryModel

structure Dim where
  number : UInt32
  deriving DecidableEq

namespace Dim

def numbers : Numbers :=
  [(0, 6), (4173, 4173)]

def ofNumber? (word : UInt32) : Option Dim :=
  if numbers.has word then some ⟨word⟩ else none

@[match_pattern] abbrev dim1D : Dim := ⟨0⟩
@[match_pattern] abbrev dim2D : Dim := ⟨1⟩
@[match_pattern] abbrev dim3D : Dim := ⟨2⟩
@[match_pattern] abbrev cube : Dim := ⟨3⟩
@[match_pattern] abbrev rect : Dim := ⟨4⟩
@[match_pattern] abbrev buffer : Dim := ⟨5⟩
@[match_pattern] abbrev subpassData : Dim := ⟨6⟩

end Dim

end ShaderInterface.Spirv
