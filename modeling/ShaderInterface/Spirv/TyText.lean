import ShaderInterface.Spirv.Ty
import ShaderInterface.Text.Quoted
import ShaderInterface.Text.Structured

/-! Types in diagnostics. -/
namespace ShaderInterface.Spirv

open Text.Structured

def wordText (word : UInt32) : String := toString word.toNat

def Dim.text : Dim → String
  | .dim1D => "Dim1D"
  | .dim2D => "Dim2D"
  | .dim3D => "Dim3D"
  | .cube => "DimCube"
  | .rect => "DimRect"
  | .buffer => "DimBuffer"
  | .subpassData => "DimSubpassData"
  | _ => "DimTileImageDataEXT"

def Scalar.text : Scalar → String
  | void => "Void"
  | boolean => "Boolean"
  | integer bits signed =>
    record "Integer" [("bits", wordText bits), ("is_signed", bool signed)]
  | float bits => record "Float" [("bits", wordText bits)]

def vectorText (component : Scalar) (count : UInt32) : String :=
  record "VectorType" [("scalar_ty", component.text), ("nscalar", wordText count)]

def MatrixOrder.text : MatrixOrder → String
  | byRow => "RowMajor"
  | byColumn => "ColumnMajor"

def Sampling.text : Sampling → String
  | unknown => "None"
  | sampled => "Some(true)"
  | storage => "Some(false)"

def SampledImage.fields (image : SampledImage) : List (String × String) :=
  [("scalar_ty", image.component.text), ("dim", image.extent.dim.text),
   ("is_depth", option (image.depth.map bool)), ("is_array", bool image.extent.arrayed),
   ("is_multisampled", bool image.extent.multisampled)]

mutual

/-- The type in a diagnostic. -/
def Ty.text : Ty → String
  | .scalar scalar => applied "Scalar" scalar.text
  | .vector component count => applied "Vector" (vectorText component count)
  | .matrix component rows columns order stride =>
    applied "Matrix" (record "MatrixType"
      [("vector_ty", vectorText component rows), ("nvector", wordText columns),
       ("axis_order", option (order.map MatrixOrder.text)),
       ("stride", option (stride.map wordText))])
  | .image image sampling format =>
    applied "Image" (record "ImageType"
      (image.fields ++ [("is_sampled", sampling.text), ("fmt", format.name)]))
  | .sampledImage image => applied "SampledImage" (record "SampledImageType" image.fields)
  | .storageImage extent format =>
    applied "StorageImage" (record "StorageImageType"
      [("dim", extent.dim.text), ("is_array", bool extent.arrayed),
       ("is_multisampled", bool extent.multisampled), ("fmt", format.name)])
  | .combinedImageSampler image =>
    applied "CombinedImageSampler" (record "CombinedImageSamplerType"
      [("sampled_image_ty", record "SampledImageType" image.fields)])
  | .sampler => applied "Sampler" "SamplerType"
  | .subpassData component multisampled =>
    applied "SubpassData" (record "SubpassDataType"
      [("scalar_ty", component.text), ("is_multisampled", bool multisampled)])
  | .array element length stride =>
    applied "Array" (record "ArrayType"
      [("element_ty", element.text), ("nelement", option (length.map wordText)),
       ("stride", option (stride.map wordText))])
  | .struct name members =>
    applied "Struct" (record "StructType"
      [("name", option (name.map Text.Quoted.quote)), ("members", list members.texts)])
  | .pointer storage pointee =>
    applied "DevicePointer" (record "PointerType"
      [("pointee_ty", pointee.text), ("store_cls", storage.text)])
  | .deviceAddress => applied "DeviceAddress" "DeviceAddressType"
  | .accelerationStructure => applied "AccelStruct" "AccelStructType"
  | .rayQuery => applied "RayQuery" "RayQueryType"

def Members.texts : Members → List String
  | .nil => []
  | .cons name offset access type rest =>
    record "StructMember"
      [("name", option (name.map Text.Quoted.quote)),
       ("offset", option (offset.map fun bytes => toString bytes)),
       ("ty", type.text), ("access_ty", access.name)] :: rest.texts

end

end ShaderInterface.Spirv
