import Rulebook.Engine.Inspection
import Rulebook.Entity.Record
import Rulebook.Handler.Equality
import Rulebook.Handler.Fixed
import Rulebook.Handler.Link
import Rulebook.Handler.Matching
import Rulebook.Handler.NotBlank
import Rulebook.Handler.Numeric
import Rulebook.Handler.Ordering
import Rulebook.Proofs.Number.ExactValue
import Rulebook.Proofs.Value.CalendarOrder
import Rulebook.Proofs.Value.ComparisonTheorems
import Rulebook.Proofs.Compilation.ScanTheorems
import Rulebook.Proofs.Handler.RegistryTheorems
import Rulebook.Proofs.Handler.RegistryRuns
import Rulebook.Proofs.Engine.Requests
import Rulebook.Proofs.Engine.CacheTransparency
import Rulebook.Proofs.Engine.CacheInvariants
import Rulebook.Proofs.Engine.FailedRequests
import Rulebook.Proofs.Engine.BuiltinRules
import Rulebook.Proofs.Engine.ComparisonRules
import Rulebook.Proofs.Definition.StepTheorems
import Rulebook.Proofs.Compilation.ScanOrder
import Rulebook.Proofs.Engine.DeclarationOrder
import Rulebook.Proofs.Engine.Batches
import Rulebook.Proofs.Engine.LaterRegistrations
import Rulebook.Proofs.Entity.Conformance
import Rulebook.Proofs.Engine.ComparisonKinds
import Rulebook.Proofs.Handler.DiscoveryTheorems
import Rulebook.Proofs.Engine.MirroredRules
import Rulebook.Proofs.Number.NearestDouble
import Rulebook.Proofs.Value.WideIntegers
import Rulebook.Proofs.Engine.IntegerRules
import Rulebook.Proofs.Engine.EvaluationModes
import Rulebook.Proofs.Definition.BuilderTheorems
import Rulebook.Proofs.Engine.BindingRuns
import Rulebook.Proofs.Engine.StandardHandlers
import Rulebook.Proofs.Compilation.ParallelScans
import Rulebook.Proofs.Handler.AlikeTargets
import Rulebook.Proofs.Engine.AlikeRuleSets
import Rulebook.Proofs.Engine.ReferencedProperties
import Rulebook.Proofs.Engine.ShapeLayout
import Rulebook.Proofs.Engine.ShadowedSiblings
import Rulebook.Proofs.Engine.InertWording
import Rulebook.Proofs.Entity.RecordShapes
import Rulebook.Proofs.Handler.ModulePaths
import Rulebook.Proofs.Handler.OwnerSlots
import Rulebook.Proofs.Compilation.HandlerCalls
import Rulebook.Proofs.Compilation.RoutedCalls
import Rulebook.Proofs.Handler.ReportedClaims
