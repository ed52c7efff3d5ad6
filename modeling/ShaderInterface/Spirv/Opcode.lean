/-! The opcodes of the instruction set: the number and the name of each. -/
namespace ShaderInterface.Spirv

/-- An instruction's operation, by its number. -/
structure Opcode where
  number : Nat
  deriving DecidableEq

namespace Opcode

/-- The names of the operations, as runs of consecutive numbers: the first number, then the
names. -/
def runs : List (Nat × List String) :=
  [(0, ["Nop", "Undef", "SourceContinued", "Source", "SourceExtension", "Name", "MemberName",
    "String", "Line"]),
   (10, ["Extension", "ExtInstImport", "ExtInst"]),
   (14, ["MemoryModel", "EntryPoint", "ExecutionMode", "Capability"]),
   (19, ["TypeVoid", "TypeBool", "TypeInt", "TypeFloat", "TypeVector", "TypeMatrix", "TypeImage",
    "TypeSampler", "TypeSampledImage", "TypeArray", "TypeRuntimeArray", "TypeStruct",
    "TypeOpaque", "TypePointer", "TypeFunction", "TypeEvent", "TypeDeviceEvent", "TypeReserveId",
    "TypeQueue", "TypePipe", "TypeForwardPointer"]),
   (41, ["ConstantTrue", "ConstantFalse", "Constant", "ConstantComposite", "ConstantSampler",
    "ConstantNull"]),
   (48, ["SpecConstantTrue", "SpecConstantFalse", "SpecConstant", "SpecConstantComposite",
    "SpecConstantOp"]),
   (54, ["Function", "FunctionParameter", "FunctionEnd", "FunctionCall"]),
   (59, ["Variable", "ImageTexelPointer", "Load", "Store", "CopyMemory", "CopyMemorySized",
    "AccessChain", "InBoundsAccessChain", "PtrAccessChain", "ArrayLength",
    "GenericPtrMemSemantics", "InBoundsPtrAccessChain", "Decorate", "MemberDecorate",
    "DecorationGroup", "GroupDecorate", "GroupMemberDecorate"]),
   (77, ["VectorExtractDynamic", "VectorInsertDynamic", "VectorShuffle", "CompositeConstruct",
    "CompositeExtract", "CompositeInsert", "CopyObject", "Transpose"]),
   (86, ["SampledImage", "ImageSampleImplicitLod", "ImageSampleExplicitLod",
    "ImageSampleDrefImplicitLod", "ImageSampleDrefExplicitLod", "ImageSampleProjImplicitLod",
    "ImageSampleProjExplicitLod", "ImageSampleProjDrefImplicitLod",
    "ImageSampleProjDrefExplicitLod", "ImageFetch", "ImageGather", "ImageDrefGather", "ImageRead",
    "ImageWrite", "Image", "ImageQueryFormat", "ImageQueryOrder", "ImageQuerySizeLod",
    "ImageQuerySize", "ImageQueryLod", "ImageQueryLevels", "ImageQuerySamples"]),
   (109, ["ConvertFToU", "ConvertFToS", "ConvertSToF", "ConvertUToF", "UConvert", "SConvert",
    "FConvert", "QuantizeToF16", "ConvertPtrToU", "SatConvertSToU", "SatConvertUToS",
    "ConvertUToPtr", "PtrCastToGeneric", "GenericCastToPtr", "GenericCastToPtrExplicit",
    "Bitcast"]),
   (126, ["SNegate", "FNegate", "IAdd", "FAdd", "ISub", "FSub", "IMul", "FMul", "UDiv", "SDiv",
    "FDiv", "UMod", "SRem", "SMod", "FRem", "FMod", "VectorTimesScalar", "MatrixTimesScalar",
    "VectorTimesMatrix", "MatrixTimesVector", "MatrixTimesMatrix", "OuterProduct", "Dot",
    "IAddCarry", "ISubBorrow", "UMulExtended", "SMulExtended"]),
   (154, ["Any", "All", "IsNan", "IsInf", "IsFinite", "IsNormal", "SignBitSet", "LessOrGreater",
    "Ordered", "Unordered", "LogicalEqual", "LogicalNotEqual", "LogicalOr", "LogicalAnd",
    "LogicalNot", "Select", "IEqual", "INotEqual", "UGreaterThan", "SGreaterThan",
    "UGreaterThanEqual", "SGreaterThanEqual", "ULessThan", "SLessThan", "ULessThanEqual",
    "SLessThanEqual", "FOrdEqual", "FUnordEqual", "FOrdNotEqual", "FUnordNotEqual",
    "FOrdLessThan", "FUnordLessThan", "FOrdGreaterThan", "FUnordGreaterThan", "FOrdLessThanEqual",
    "FUnordLessThanEqual", "FOrdGreaterThanEqual", "FUnordGreaterThanEqual"]),
   (194, ["ShiftRightLogical", "ShiftRightArithmetic", "ShiftLeftLogical", "BitwiseOr",
    "BitwiseXor", "BitwiseAnd", "Not", "BitFieldInsert", "BitFieldSExtract", "BitFieldUExtract",
    "BitReverse", "BitCount"]),
   (207, ["DPdx", "DPdy", "Fwidth", "DPdxFine", "DPdyFine", "FwidthFine", "DPdxCoarse",
    "DPdyCoarse", "FwidthCoarse"]),
   (218, ["EmitVertex", "EndPrimitive", "EmitStreamVertex", "EndStreamPrimitive"]),
   (224, ["ControlBarrier", "MemoryBarrier"]),
   (227, ["AtomicLoad", "AtomicStore", "AtomicExchange", "AtomicCompareExchange",
    "AtomicCompareExchangeWeak", "AtomicIIncrement", "AtomicIDecrement", "AtomicIAdd",
    "AtomicISub", "AtomicSMin", "AtomicUMin", "AtomicSMax", "AtomicUMax", "AtomicAnd", "AtomicOr",
    "AtomicXor"]),
   (245, ["Phi", "LoopMerge", "SelectionMerge", "Label", "Branch", "BranchConditional", "Switch",
    "Kill", "Return", "ReturnValue", "Unreachable", "LifetimeStart", "LifetimeStop"]),
   (259, ["GroupAsyncCopy", "GroupWaitEvents", "GroupAll", "GroupAny", "GroupBroadcast",
    "GroupIAdd", "GroupFAdd", "GroupFMin", "GroupUMin", "GroupSMin", "GroupFMax", "GroupUMax",
    "GroupSMax"]),
   (274, ["ReadPipe", "WritePipe", "ReservedReadPipe", "ReservedWritePipe",
    "ReserveReadPipePackets", "ReserveWritePipePackets", "CommitReadPipe", "CommitWritePipe",
    "IsValidReserveId", "GetNumPipePackets", "GetMaxPipePackets", "GroupReserveReadPipePackets",
    "GroupReserveWritePipePackets", "GroupCommitReadPipe", "GroupCommitWritePipe"]),
   (291, ["EnqueueMarker", "EnqueueKernel", "GetKernelNDrangeSubGroupCount",
    "GetKernelNDrangeMaxSubGroupSize", "GetKernelWorkGroupSize",
    "GetKernelPreferredWorkGroupSizeMultiple", "RetainEvent", "ReleaseEvent", "CreateUserEvent",
    "IsValidEvent", "SetUserEventStatus", "CaptureEventProfilingInfo", "GetDefaultQueue",
    "BuildNDRange", "ImageSparseSampleImplicitLod", "ImageSparseSampleExplicitLod",
    "ImageSparseSampleDrefImplicitLod", "ImageSparseSampleDrefExplicitLod",
    "ImageSparseSampleProjImplicitLod", "ImageSparseSampleProjExplicitLod",
    "ImageSparseSampleProjDrefImplicitLod", "ImageSparseSampleProjDrefExplicitLod",
    "ImageSparseFetch", "ImageSparseGather", "ImageSparseDrefGather", "ImageSparseTexelsResident",
    "NoLine", "AtomicFlagTestAndSet", "AtomicFlagClear", "ImageSparseRead", "SizeOf",
    "TypePipeStorage", "ConstantPipeStorage", "CreatePipeFromPipeStorage",
    "GetKernelLocalSizeForSubgroupCount", "GetKernelMaxNumSubgroups", "TypeNamedBarrier",
    "NamedBarrierInitialize", "MemoryNamedBarrier", "ModuleProcessed", "ExecutionModeId",
    "DecorateId", "GroupNonUniformElect", "GroupNonUniformAll", "GroupNonUniformAny",
    "GroupNonUniformAllEqual", "GroupNonUniformBroadcast", "GroupNonUniformBroadcastFirst",
    "GroupNonUniformBallot", "GroupNonUniformInverseBallot", "GroupNonUniformBallotBitExtract",
    "GroupNonUniformBallotBitCount", "GroupNonUniformBallotFindLSB",
    "GroupNonUniformBallotFindMSB", "GroupNonUniformShuffle", "GroupNonUniformShuffleXor",
    "GroupNonUniformShuffleUp", "GroupNonUniformShuffleDown", "GroupNonUniformIAdd",
    "GroupNonUniformFAdd", "GroupNonUniformIMul", "GroupNonUniformFMul", "GroupNonUniformSMin",
    "GroupNonUniformUMin", "GroupNonUniformFMin", "GroupNonUniformSMax", "GroupNonUniformUMax",
    "GroupNonUniformFMax", "GroupNonUniformBitwiseAnd", "GroupNonUniformBitwiseOr",
    "GroupNonUniformBitwiseXor", "GroupNonUniformLogicalAnd", "GroupNonUniformLogicalOr",
    "GroupNonUniformLogicalXor", "GroupNonUniformQuadBroadcast", "GroupNonUniformQuadSwap"]),
   (400, ["CopyLogical", "PtrEqual", "PtrNotEqual", "PtrDiff"]),
   (4160, ["ColorAttachmentReadEXT", "DepthAttachmentReadEXT", "StencilAttachmentReadEXT"]),
   (4416, ["TerminateInvocation"]),
   (4421, ["SubgroupBallotKHR", "SubgroupFirstInvocationKHR"]),
   (4428, ["SubgroupAllKHR", "SubgroupAnyKHR", "SubgroupAllEqualKHR", "GroupNonUniformRotateKHR",
    "SubgroupReadInvocationKHR"]),
   (4445, ["TraceRayKHR", "ExecuteCallableKHR", "ConvertUToAccelerationStructureKHR",
    "IgnoreIntersectionKHR", "TerminateRayKHR", "SDot", "UDot", "SUDot", "SDotAccSat",
    "UDotAccSat", "SUDotAccSat", "TypeCooperativeMatrixKHR", "CooperativeMatrixLoadKHR",
    "CooperativeMatrixStoreKHR", "CooperativeMatrixMulAddKHR", "CooperativeMatrixLengthKHR"]),
   (4472, ["TypeRayQueryKHR", "RayQueryInitializeKHR", "RayQueryTerminateKHR",
    "RayQueryGenerateIntersectionKHR", "RayQueryConfirmIntersectionKHR", "RayQueryProceedKHR"]),
   (4479, ["RayQueryGetIntersectionTypeKHR", "ImageSampleWeightedQCOM", "ImageBoxFilterQCOM",
    "ImageBlockMatchSSDQCOM", "ImageBlockMatchSADQCOM"]),
   (5000, ["GroupIAddNonUniformAMD", "GroupFAddNonUniformAMD", "GroupFMinNonUniformAMD",
    "GroupUMinNonUniformAMD", "GroupSMinNonUniformAMD", "GroupFMaxNonUniformAMD",
    "GroupUMaxNonUniformAMD", "GroupSMaxNonUniformAMD"]),
   (5011, ["FragmentMaskFetchAMD", "FragmentFetchAMD"]),
   (5056, ["ReadClockKHR"]),
   (5075, ["FinalizeNodePayloadsAMDX"]),
   (5078, ["FinishWritingNodePayloadAMDX"]),
   (5090, ["InitializeNodePayloadsAMDX"]),
   (5249, ["HitObjectRecordHitMotionNV", "HitObjectRecordHitWithIndexMotionNV",
    "HitObjectRecordMissMotionNV", "HitObjectGetWorldToObjectNV", "HitObjectGetObjectToWorldNV",
    "HitObjectGetObjectRayDirectionNV", "HitObjectGetObjectRayOriginNV",
    "HitObjectTraceRayMotionNV", "HitObjectGetShaderRecordBufferHandleNV",
    "HitObjectGetShaderBindingTableRecordIndexNV", "HitObjectRecordEmptyNV",
    "HitObjectTraceRayNV", "HitObjectRecordHitNV", "HitObjectRecordHitWithIndexNV",
    "HitObjectRecordMissNV", "HitObjectExecuteShaderNV", "HitObjectGetCurrentTimeNV",
    "HitObjectGetAttributesNV", "HitObjectGetHitKindNV", "HitObjectGetPrimitiveIndexNV",
    "HitObjectGetGeometryIndexNV", "HitObjectGetInstanceIdNV",
    "HitObjectGetInstanceCustomIndexNV", "HitObjectGetWorldRayDirectionNV",
    "HitObjectGetWorldRayOriginNV", "HitObjectGetRayTMaxNV", "HitObjectGetRayTMinNV",
    "HitObjectIsEmptyNV", "HitObjectIsHitNV", "HitObjectIsMissNV", "ReorderThreadWithHitObjectNV",
    "ReorderThreadWithHintNV", "TypeHitObjectNV"]),
   (5283, ["ImageSampleFootprintNV"]),
   (5294, ["EmitMeshTasksEXT", "SetMeshOutputsEXT", "GroupNonUniformPartitionNV"]),
   (5299, ["WritePackedPrimitiveIndices4x8NV", "FetchMicroTriangleVertexPositionNV",
    "FetchMicroTriangleVertexBarycentricNV"]),
   (5334, ["ReportIntersectionKHR", "IgnoreIntersectionNV", "TerminateRayNV", "TraceNV",
    "TraceMotionNV", "TraceRayMotionNV", "RayQueryGetIntersectionTriangleVertexPositionsKHR",
    "TypeAccelerationStructureKHR"]),
   (5344, ["ExecuteCallableNV"]),
   (5358, ["TypeCooperativeMatrixNV", "CooperativeMatrixLoadNV", "CooperativeMatrixStoreNV",
    "CooperativeMatrixMulAddNV", "CooperativeMatrixLengthNV"]),
   (5364, ["BeginInvocationInterlockEXT", "EndInvocationInterlockEXT"]),
   (5380, ["DemoteToHelperInvocation", "IsHelperInvocationEXT"]),
   (5391, ["ConvertUToImageNV", "ConvertUToSamplerNV", "ConvertImageToUNV", "ConvertSamplerToUNV",
    "ConvertUToSampledImageNV", "ConvertSampledImageToUNV", "SamplerImageAddressingModeNV"]),
   (5571, ["SubgroupShuffleINTEL", "SubgroupShuffleDownINTEL", "SubgroupShuffleUpINTEL",
    "SubgroupShuffleXorINTEL", "SubgroupBlockReadINTEL", "SubgroupBlockWriteINTEL",
    "SubgroupImageBlockReadINTEL", "SubgroupImageBlockWriteINTEL"]),
   (5580, ["SubgroupImageMediaBlockReadINTEL", "SubgroupImageMediaBlockWriteINTEL"]),
   (5585, ["UCountLeadingZerosINTEL", "UCountTrailingZerosINTEL", "AbsISubINTEL", "AbsUSubINTEL",
    "IAddSatINTEL", "UAddSatINTEL", "IAverageINTEL", "UAverageINTEL", "IAverageRoundedINTEL",
    "UAverageRoundedINTEL", "ISubSatINTEL", "USubSatINTEL", "IMul32x16INTEL", "UMul32x16INTEL"]),
   (5600, ["ConstantFunctionPointerINTEL", "FunctionPointerCallINTEL"]),
   (5609, ["AsmTargetINTEL", "AsmINTEL", "AsmCallINTEL"]),
   (5614, ["AtomicFMinEXT", "AtomicFMaxEXT"]),
   (5630, ["AssumeTrueKHR", "ExpectKHR", "DecorateString", "MemberDecorateString"]),
   (5699, ["VmeImageINTEL", "TypeVmeImageINTEL", "TypeAvcImePayloadINTEL",
    "TypeAvcRefPayloadINTEL", "TypeAvcSicPayloadINTEL", "TypeAvcMcePayloadINTEL",
    "TypeAvcMceResultINTEL", "TypeAvcImeResultINTEL",
    "TypeAvcImeResultSingleReferenceStreamoutINTEL",
    "TypeAvcImeResultDualReferenceStreamoutINTEL", "TypeAvcImeSingleReferenceStreaminINTEL",
    "TypeAvcImeDualReferenceStreaminINTEL", "TypeAvcRefResultINTEL", "TypeAvcSicResultINTEL",
    "SubgroupAvcMceGetDefaultInterBaseMultiReferencePenaltyINTEL",
    "SubgroupAvcMceSetInterBaseMultiReferencePenaltyINTEL",
    "SubgroupAvcMceGetDefaultInterShapePenaltyINTEL", "SubgroupAvcMceSetInterShapePenaltyINTEL",
    "SubgroupAvcMceGetDefaultInterDirectionPenaltyINTEL",
    "SubgroupAvcMceSetInterDirectionPenaltyINTEL",
    "SubgroupAvcMceGetDefaultIntraLumaShapePenaltyINTEL",
    "SubgroupAvcMceGetDefaultInterMotionVectorCostTableINTEL",
    "SubgroupAvcMceGetDefaultHighPenaltyCostTableINTEL",
    "SubgroupAvcMceGetDefaultMediumPenaltyCostTableINTEL",
    "SubgroupAvcMceGetDefaultLowPenaltyCostTableINTEL",
    "SubgroupAvcMceSetMotionVectorCostFunctionINTEL",
    "SubgroupAvcMceGetDefaultIntraLumaModePenaltyINTEL",
    "SubgroupAvcMceGetDefaultNonDcLumaIntraPenaltyINTEL",
    "SubgroupAvcMceGetDefaultIntraChromaModeBasePenaltyINTEL", "SubgroupAvcMceSetAcOnlyHaarINTEL",
    "SubgroupAvcMceSetSourceInterlacedFieldPolarityINTEL",
    "SubgroupAvcMceSetSingleReferenceInterlacedFieldPolarityINTEL",
    "SubgroupAvcMceSetDualReferenceInterlacedFieldPolaritiesINTEL",
    "SubgroupAvcMceConvertToImePayloadINTEL", "SubgroupAvcMceConvertToImeResultINTEL",
    "SubgroupAvcMceConvertToRefPayloadINTEL", "SubgroupAvcMceConvertToRefResultINTEL",
    "SubgroupAvcMceConvertToSicPayloadINTEL", "SubgroupAvcMceConvertToSicResultINTEL",
    "SubgroupAvcMceGetMotionVectorsINTEL", "SubgroupAvcMceGetInterDistortionsINTEL",
    "SubgroupAvcMceGetBestInterDistortionsINTEL", "SubgroupAvcMceGetInterMajorShapeINTEL",
    "SubgroupAvcMceGetInterMinorShapeINTEL", "SubgroupAvcMceGetInterDirectionsINTEL",
    "SubgroupAvcMceGetInterMotionVectorCountINTEL", "SubgroupAvcMceGetInterReferenceIdsINTEL",
    "SubgroupAvcMceGetInterReferenceInterlacedFieldPolaritiesINTEL",
    "SubgroupAvcImeInitializeINTEL", "SubgroupAvcImeSetSingleReferenceINTEL",
    "SubgroupAvcImeSetDualReferenceINTEL", "SubgroupAvcImeRefWindowSizeINTEL",
    "SubgroupAvcImeAdjustRefOffsetINTEL", "SubgroupAvcImeConvertToMcePayloadINTEL",
    "SubgroupAvcImeSetMaxMotionVectorCountINTEL",
    "SubgroupAvcImeSetUnidirectionalMixDisableINTEL",
    "SubgroupAvcImeSetEarlySearchTerminationThresholdINTEL", "SubgroupAvcImeSetWeightedSadINTEL",
    "SubgroupAvcImeEvaluateWithSingleReferenceINTEL",
    "SubgroupAvcImeEvaluateWithDualReferenceINTEL",
    "SubgroupAvcImeEvaluateWithSingleReferenceStreaminINTEL",
    "SubgroupAvcImeEvaluateWithDualReferenceStreaminINTEL",
    "SubgroupAvcImeEvaluateWithSingleReferenceStreamoutINTEL",
    "SubgroupAvcImeEvaluateWithDualReferenceStreamoutINTEL",
    "SubgroupAvcImeEvaluateWithSingleReferenceStreaminoutINTEL",
    "SubgroupAvcImeEvaluateWithDualReferenceStreaminoutINTEL",
    "SubgroupAvcImeConvertToMceResultINTEL", "SubgroupAvcImeGetSingleReferenceStreaminINTEL",
    "SubgroupAvcImeGetDualReferenceStreaminINTEL",
    "SubgroupAvcImeStripSingleReferenceStreamoutINTEL",
    "SubgroupAvcImeStripDualReferenceStreamoutINTEL",
    "SubgroupAvcImeGetStreamoutSingleReferenceMajorShapeMotionVectorsINTEL",
    "SubgroupAvcImeGetStreamoutSingleReferenceMajorShapeDistortionsINTEL",
    "SubgroupAvcImeGetStreamoutSingleReferenceMajorShapeReferenceIdsINTEL",
    "SubgroupAvcImeGetStreamoutDualReferenceMajorShapeMotionVectorsINTEL",
    "SubgroupAvcImeGetStreamoutDualReferenceMajorShapeDistortionsINTEL",
    "SubgroupAvcImeGetStreamoutDualReferenceMajorShapeReferenceIdsINTEL",
    "SubgroupAvcImeGetBorderReachedINTEL", "SubgroupAvcImeGetTruncatedSearchIndicationINTEL",
    "SubgroupAvcImeGetUnidirectionalEarlySearchTerminationINTEL",
    "SubgroupAvcImeGetWeightingPatternMinimumMotionVectorINTEL",
    "SubgroupAvcImeGetWeightingPatternMinimumDistortionINTEL", "SubgroupAvcFmeInitializeINTEL",
    "SubgroupAvcBmeInitializeINTEL", "SubgroupAvcRefConvertToMcePayloadINTEL",
    "SubgroupAvcRefSetBidirectionalMixDisableINTEL", "SubgroupAvcRefSetBilinearFilterEnableINTEL",
    "SubgroupAvcRefEvaluateWithSingleReferenceINTEL",
    "SubgroupAvcRefEvaluateWithDualReferenceINTEL",
    "SubgroupAvcRefEvaluateWithMultiReferenceINTEL",
    "SubgroupAvcRefEvaluateWithMultiReferenceInterlacedINTEL",
    "SubgroupAvcRefConvertToMceResultINTEL", "SubgroupAvcSicInitializeINTEL",
    "SubgroupAvcSicConfigureSkcINTEL", "SubgroupAvcSicConfigureIpeLumaINTEL",
    "SubgroupAvcSicConfigureIpeLumaChromaINTEL", "SubgroupAvcSicGetMotionVectorMaskINTEL",
    "SubgroupAvcSicConvertToMcePayloadINTEL", "SubgroupAvcSicSetIntraLumaShapePenaltyINTEL",
    "SubgroupAvcSicSetIntraLumaModeCostFunctionINTEL",
    "SubgroupAvcSicSetIntraChromaModeCostFunctionINTEL",
    "SubgroupAvcSicSetBilinearFilterEnableINTEL",
    "SubgroupAvcSicSetSkcForwardTransformEnableINTEL",
    "SubgroupAvcSicSetBlockBasedRawSkipSadINTEL", "SubgroupAvcSicEvaluateIpeINTEL",
    "SubgroupAvcSicEvaluateWithSingleReferenceINTEL",
    "SubgroupAvcSicEvaluateWithDualReferenceINTEL",
    "SubgroupAvcSicEvaluateWithMultiReferenceINTEL",
    "SubgroupAvcSicEvaluateWithMultiReferenceInterlacedINTEL",
    "SubgroupAvcSicConvertToMceResultINTEL", "SubgroupAvcSicGetIpeLumaShapeINTEL",
    "SubgroupAvcSicGetBestIpeLumaDistortionINTEL",
    "SubgroupAvcSicGetBestIpeChromaDistortionINTEL", "SubgroupAvcSicGetPackedIpeLumaModesINTEL",
    "SubgroupAvcSicGetIpeChromaModeINTEL", "SubgroupAvcSicGetPackedSkcLumaCountThresholdINTEL",
    "SubgroupAvcSicGetPackedSkcLumaSumThresholdINTEL", "SubgroupAvcSicGetInterRawSadsINTEL"]),
   (5818, ["VariableLengthArrayINTEL", "SaveMemoryINTEL", "RestoreMemoryINTEL"]),
   (5840, ["ArbitraryFloatSinCosPiINTEL", "ArbitraryFloatCastINTEL",
    "ArbitraryFloatCastFromIntINTEL", "ArbitraryFloatCastToIntINTEL"]),
   (5846, ["ArbitraryFloatAddINTEL", "ArbitraryFloatSubINTEL", "ArbitraryFloatMulINTEL",
    "ArbitraryFloatDivINTEL", "ArbitraryFloatGTINTEL", "ArbitraryFloatGEINTEL",
    "ArbitraryFloatLTINTEL", "ArbitraryFloatLEINTEL", "ArbitraryFloatEQINTEL",
    "ArbitraryFloatRecipINTEL", "ArbitraryFloatRSqrtINTEL", "ArbitraryFloatCbrtINTEL",
    "ArbitraryFloatHypotINTEL", "ArbitraryFloatSqrtINTEL", "ArbitraryFloatLogINTEL",
    "ArbitraryFloatLog2INTEL", "ArbitraryFloatLog10INTEL", "ArbitraryFloatLog1pINTEL",
    "ArbitraryFloatExpINTEL", "ArbitraryFloatExp2INTEL", "ArbitraryFloatExp10INTEL",
    "ArbitraryFloatExpm1INTEL", "ArbitraryFloatSinINTEL", "ArbitraryFloatCosINTEL",
    "ArbitraryFloatSinCosINTEL", "ArbitraryFloatSinPiINTEL", "ArbitraryFloatCosPiINTEL",
    "ArbitraryFloatASinINTEL", "ArbitraryFloatASinPiINTEL", "ArbitraryFloatACosINTEL",
    "ArbitraryFloatACosPiINTEL", "ArbitraryFloatATanINTEL", "ArbitraryFloatATanPiINTEL",
    "ArbitraryFloatATan2INTEL", "ArbitraryFloatPowINTEL", "ArbitraryFloatPowRINTEL",
    "ArbitraryFloatPowNINTEL"]),
   (5887, ["LoopControlINTEL"]),
   (5911, ["AliasDomainDeclINTEL", "AliasScopeDeclINTEL", "AliasScopeListDeclINTEL"]),
   (5923, ["FixedSqrtINTEL", "FixedRecipINTEL", "FixedRsqrtINTEL", "FixedSinINTEL",
    "FixedCosINTEL", "FixedSinCosINTEL", "FixedSinPiINTEL", "FixedCosPiINTEL",
    "FixedSinCosPiINTEL", "FixedLogINTEL", "FixedExpINTEL", "PtrCastToCrossWorkgroupINTEL"]),
   (5938, ["CrossWorkgroupCastToPtrINTEL"]),
   (5946, ["ReadPipeBlockingINTEL", "WritePipeBlockingINTEL"]),
   (5949, ["FPGARegINTEL"]),
   (6016, ["RayQueryGetRayTMinKHR", "RayQueryGetRayFlagsKHR", "RayQueryGetIntersectionTKHR",
    "RayQueryGetIntersectionInstanceCustomIndexKHR", "RayQueryGetIntersectionInstanceIdKHR",
    "RayQueryGetIntersectionInstanceShaderBindingTableRecordOffsetKHR",
    "RayQueryGetIntersectionGeometryIndexKHR", "RayQueryGetIntersectionPrimitiveIndexKHR",
    "RayQueryGetIntersectionBarycentricsKHR", "RayQueryGetIntersectionFrontFaceKHR",
    "RayQueryGetIntersectionCandidateAABBOpaqueKHR",
    "RayQueryGetIntersectionObjectRayDirectionKHR", "RayQueryGetIntersectionObjectRayOriginKHR",
    "RayQueryGetWorldRayDirectionKHR", "RayQueryGetWorldRayOriginKHR",
    "RayQueryGetIntersectionObjectToWorldKHR", "RayQueryGetIntersectionWorldToObjectKHR"]),
   (6035, ["AtomicFAddEXT"]),
   (6086, ["TypeBufferSurfaceINTEL"]),
   (6090, ["TypeStructContinuedINTEL", "ConstantCompositeContinuedINTEL",
    "SpecConstantCompositeContinuedINTEL"]),
   (6116, ["ConvertFToBF16INTEL", "ConvertBF16ToFINTEL"]),
   (6142, ["ControlBarrierArriveINTEL", "ControlBarrierWaitINTEL"]),
   (6401, ["GroupIMulKHR", "GroupFMulKHR", "GroupBitwiseAndKHR", "GroupBitwiseOrKHR",
    "GroupBitwiseXorKHR", "GroupLogicalAndKHR", "GroupLogicalOrKHR", "GroupLogicalXorKHR"])]

def name? (opcode : Opcode) : Option String :=
  runs.findSome? fun (first, names) =>
    if first ≤ opcode.number then names[opcode.number - first]? else none

def isKnown (opcode : Opcode) : Bool := opcode.name?.isSome

def text (opcode : Opcode) : String := opcode.name?.getD ""

/-! The operations that the library looks at. -/

@[match_pattern] abbrev undef : Opcode := ⟨1⟩
@[match_pattern] abbrev sourceContinued : Opcode := ⟨2⟩
@[match_pattern] abbrev source : Opcode := ⟨3⟩
@[match_pattern] abbrev sourceExtension : Opcode := ⟨4⟩
@[match_pattern] abbrev name : Opcode := ⟨5⟩
@[match_pattern] abbrev memberName : Opcode := ⟨6⟩
@[match_pattern] abbrev string : Opcode := ⟨7⟩
@[match_pattern] abbrev line : Opcode := ⟨8⟩
@[match_pattern] abbrev extension : Opcode := ⟨10⟩
@[match_pattern] abbrev extInstImport : Opcode := ⟨11⟩
@[match_pattern] abbrev extInst : Opcode := ⟨12⟩
@[match_pattern] abbrev memoryModel : Opcode := ⟨14⟩
@[match_pattern] abbrev entryPoint : Opcode := ⟨15⟩
@[match_pattern] abbrev executionMode : Opcode := ⟨16⟩
@[match_pattern] abbrev capability : Opcode := ⟨17⟩
@[match_pattern] abbrev typeVoid : Opcode := ⟨19⟩
@[match_pattern] abbrev typeBool : Opcode := ⟨20⟩
@[match_pattern] abbrev typeInt : Opcode := ⟨21⟩
@[match_pattern] abbrev typeFloat : Opcode := ⟨22⟩
@[match_pattern] abbrev typeVector : Opcode := ⟨23⟩
@[match_pattern] abbrev typeMatrix : Opcode := ⟨24⟩
@[match_pattern] abbrev typeImage : Opcode := ⟨25⟩
@[match_pattern] abbrev typeSampler : Opcode := ⟨26⟩
@[match_pattern] abbrev typeSampledImage : Opcode := ⟨27⟩
@[match_pattern] abbrev typeArray : Opcode := ⟨28⟩
@[match_pattern] abbrev typeRuntimeArray : Opcode := ⟨29⟩
@[match_pattern] abbrev typeStruct : Opcode := ⟨30⟩
@[match_pattern] abbrev typePointer : Opcode := ⟨32⟩
@[match_pattern] abbrev typeFunction : Opcode := ⟨33⟩
@[match_pattern] abbrev typeForwardPointer : Opcode := ⟨39⟩
@[match_pattern] abbrev constantTrue : Opcode := ⟨41⟩
@[match_pattern] abbrev constantFalse : Opcode := ⟨42⟩
@[match_pattern] abbrev constant : Opcode := ⟨43⟩
@[match_pattern] abbrev constantComposite : Opcode := ⟨44⟩
@[match_pattern] abbrev constantSampler : Opcode := ⟨45⟩
@[match_pattern] abbrev constantNull : Opcode := ⟨46⟩
@[match_pattern] abbrev specConstantTrue : Opcode := ⟨48⟩
@[match_pattern] abbrev specConstantFalse : Opcode := ⟨49⟩
@[match_pattern] abbrev specConstant : Opcode := ⟨50⟩
@[match_pattern] abbrev specConstantComposite : Opcode := ⟨51⟩
@[match_pattern] abbrev specConstantOp : Opcode := ⟨52⟩
@[match_pattern] abbrev function : Opcode := ⟨54⟩
@[match_pattern] abbrev functionEnd : Opcode := ⟨56⟩
@[match_pattern] abbrev functionCall : Opcode := ⟨57⟩
@[match_pattern] abbrev variableDecl : Opcode := ⟨59⟩
@[match_pattern] abbrev load : Opcode := ⟨61⟩
@[match_pattern] abbrev store : Opcode := ⟨62⟩
@[match_pattern] abbrev accessChain : Opcode := ⟨65⟩
@[match_pattern] abbrev decorate : Opcode := ⟨71⟩
@[match_pattern] abbrev memberDecorate : Opcode := ⟨72⟩
@[match_pattern] abbrev decorationGroup : Opcode := ⟨73⟩
@[match_pattern] abbrev groupDecorate : Opcode := ⟨74⟩
@[match_pattern] abbrev groupMemberDecorate : Opcode := ⟨75⟩
@[match_pattern] abbrev convertFToU : Opcode := ⟨109⟩
@[match_pattern] abbrev convertFToS : Opcode := ⟨110⟩
@[match_pattern] abbrev convertSToF : Opcode := ⟨111⟩
@[match_pattern] abbrev convertUToF : Opcode := ⟨112⟩
@[match_pattern] abbrev uConvert : Opcode := ⟨113⟩
@[match_pattern] abbrev sConvert : Opcode := ⟨114⟩
@[match_pattern] abbrev fConvert : Opcode := ⟨115⟩
@[match_pattern] abbrev bitcast : Opcode := ⟨124⟩
@[match_pattern] abbrev sNegate : Opcode := ⟨126⟩
@[match_pattern] abbrev fNegate : Opcode := ⟨127⟩
@[match_pattern] abbrev iAdd : Opcode := ⟨128⟩
@[match_pattern] abbrev fAdd : Opcode := ⟨129⟩
@[match_pattern] abbrev iSub : Opcode := ⟨130⟩
@[match_pattern] abbrev fSub : Opcode := ⟨131⟩
@[match_pattern] abbrev iMul : Opcode := ⟨132⟩
@[match_pattern] abbrev fMul : Opcode := ⟨133⟩
@[match_pattern] abbrev uDiv : Opcode := ⟨134⟩
@[match_pattern] abbrev sDiv : Opcode := ⟨135⟩
@[match_pattern] abbrev fDiv : Opcode := ⟨136⟩
@[match_pattern] abbrev uMod : Opcode := ⟨137⟩
@[match_pattern] abbrev sRem : Opcode := ⟨138⟩
@[match_pattern] abbrev sMod : Opcode := ⟨139⟩
@[match_pattern] abbrev fRem : Opcode := ⟨140⟩
@[match_pattern] abbrev fMod : Opcode := ⟨141⟩
@[match_pattern] abbrev iEqual : Opcode := ⟨170⟩
@[match_pattern] abbrev iNotEqual : Opcode := ⟨171⟩
@[match_pattern] abbrev shiftRightLogical : Opcode := ⟨194⟩
@[match_pattern] abbrev shiftRightArithmetic : Opcode := ⟨195⟩
@[match_pattern] abbrev shiftLeftLogical : Opcode := ⟨196⟩
@[match_pattern] abbrev bitwiseOr : Opcode := ⟨197⟩
@[match_pattern] abbrev bitwiseXor : Opcode := ⟨198⟩
@[match_pattern] abbrev bitwiseAnd : Opcode := ⟨199⟩
@[match_pattern] abbrev not : Opcode := ⟨200⟩
@[match_pattern] abbrev atomicLoad : Opcode := ⟨227⟩
@[match_pattern] abbrev atomicStore : Opcode := ⟨228⟩
@[match_pattern] abbrev atomicExchange : Opcode := ⟨229⟩
@[match_pattern] abbrev atomicCompareExchange : Opcode := ⟨230⟩
@[match_pattern] abbrev atomicCompareExchangeWeak : Opcode := ⟨231⟩
@[match_pattern] abbrev atomicIIncrement : Opcode := ⟨232⟩
@[match_pattern] abbrev atomicIDecrement : Opcode := ⟨233⟩
@[match_pattern] abbrev atomicIAdd : Opcode := ⟨234⟩
@[match_pattern] abbrev atomicISub : Opcode := ⟨235⟩
@[match_pattern] abbrev atomicSMin : Opcode := ⟨236⟩
@[match_pattern] abbrev atomicUMin : Opcode := ⟨237⟩
@[match_pattern] abbrev atomicSMax : Opcode := ⟨238⟩
@[match_pattern] abbrev atomicUMax : Opcode := ⟨239⟩
@[match_pattern] abbrev atomicAnd : Opcode := ⟨240⟩
@[match_pattern] abbrev atomicOr : Opcode := ⟨241⟩
@[match_pattern] abbrev atomicXor : Opcode := ⟨242⟩
@[match_pattern] abbrev noLine : Opcode := ⟨317⟩
@[match_pattern] abbrev constantPipeStorage : Opcode := ⟨323⟩
@[match_pattern] abbrev moduleProcessed : Opcode := ⟨330⟩
@[match_pattern] abbrev executionModeId : Opcode := ⟨331⟩
@[match_pattern] abbrev decorateId : Opcode := ⟨332⟩
@[match_pattern] abbrev decorateString : Opcode := ⟨5632⟩
@[match_pattern] abbrev memberDecorateString : Opcode := ⟨5633⟩
@[match_pattern] abbrev typeAccelerationStructureKHR : Opcode := ⟨5341⟩
@[match_pattern] abbrev typeRayQueryKHR : Opcode := ⟨4472⟩

end Opcode

end ShaderInterface.Spirv
