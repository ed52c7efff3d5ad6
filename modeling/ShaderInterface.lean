import ShaderInterface.Proofs.BindingTranslation
import ShaderInterface.Proofs.BlockRetention
import ShaderInterface.Proofs.BytecodeWords
import ShaderInterface.Proofs.CompactionLog
import ShaderInterface.Proofs.DeclarationOrder
import ShaderInterface.Proofs.DescriptorLookup
import ShaderInterface.Proofs.FailureOrder
import ShaderInterface.Proofs.InterfaceUsage
import ShaderInterface.Proofs.LayoutNumbers
import ShaderInterface.Proofs.LineColours
import ShaderInterface.Proofs.ListingInvariant
import ShaderInterface.Proofs.NameReferences
import ShaderInterface.Proofs.NameRun
import ShaderInterface.Proofs.OrderIndependence
import ShaderInterface.Proofs.PoolPartition
import ShaderInterface.Proofs.Pruning
import ShaderInterface.Proofs.PushConstantAttribution
import ShaderInterface.Proofs.PushConstantLookup
import ShaderInterface.Proofs.ReadingReports
import ShaderInterface.Proofs.ResourceQueries
import ShaderInterface.Proofs.ScanOrder
import ShaderInterface.Proofs.ScanParts
import ShaderInterface.Proofs.ScanReports
import ShaderInterface.Proofs.ScanRoundTrip
import ShaderInterface.Proofs.Selection
import ShaderInterface.Proofs.SessionDelivery
import ShaderInterface.Proofs.StageAttribution
import ShaderInterface.Proofs.StageSets
import ShaderInterface.Proofs.StageVariation
import ShaderInterface.Proofs.TypeStripping
import ShaderInterface.Spirv.Backend
