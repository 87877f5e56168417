import ServiceSpec.Files.Tree
import ServiceSpec.Main
import ServiceSpec.Proofs.DerivedNames
import ServiceSpec.Proofs.FilterGroups
import ServiceSpec.Proofs.BaseExpansion
import ServiceSpec.Proofs.FullExpansion
import ServiceSpec.Proofs.Reexpansion
import ServiceSpec.Proofs.ExpectedNames
import ServiceSpec.Proofs.Validation
import ServiceSpec.Proofs.NameKinds
import ServiceSpec.Proofs.BodyErrors
import ServiceSpec.Proofs.Documents
import ServiceSpec.Proofs.ExpandedFilters
import ServiceSpec.Proofs.Routes
import ServiceSpec.Proofs.SchemaReferences
import ServiceSpec.Proofs.FieldNames
import ServiceSpec.Proofs.FieldKeys
import ServiceSpec.Proofs.FormRoundTrip
import ServiceSpec.Proofs.ServiceRoundTrip
import ServiceSpec.Proofs.JsonTokens
import ServiceSpec.Proofs.JsonDocuments
import ServiceSpec.Proofs.JsonSkipping
import ServiceSpec.Proofs.JsonRoundTrip
import ServiceSpec.Proofs.TypeNames
import ServiceSpec.Proofs.Additions
import ServiceSpec.Proofs.UniqueNames
import ServiceSpec.Proofs.OperationGating
import ServiceSpec.Proofs.UnreadColumns
import ServiceSpec.Proofs.ErrorReach
import ServiceSpec.Proofs.Reordering
import ServiceSpec.Proofs.EarlyResolution
import ServiceSpec.Proofs.FileTrees
import ServiceSpec.Proofs.OperationIds
import ServiceSpec.Proofs.AtomicWriting
import ServiceSpec.Proofs.JobOutputs
import ServiceSpec.Proofs.SchemaValidity
import ServiceSpec.Proofs.RecordSlots
import ServiceSpec.Proofs.ValidDocuments
import ServiceSpec.Proofs.ErrorMirrors
import ServiceSpec.Proofs.ErrorTraversal
import ServiceSpec.Proofs.FilterAddition
import ServiceSpec.Proofs.InPlaceResolution
import ServiceSpec.Proofs.Words
import ServiceSpec.Proofs.DeclaredNames
import ServiceSpec.Proofs.ViolationCauses
import ServiceSpec.Proofs.Plurals
import ServiceSpec.Proofs.CollectionPaths
import ServiceSpec.Proofs.RepeatedPlurals
import ServiceSpec.Proofs.FieldSchemas
import ServiceSpec.Proofs.CamelCase
import ServiceSpec.Proofs.HeaderNames
import ServiceSpec.Proofs.FilePrograms
import ServiceSpec.Proofs.ParentPaths
import ServiceSpec.Proofs.WatchedTrees
import ServiceSpec.Proofs.WriteStates
import ServiceSpec.Proofs.WordCuts
import ServiceSpec.Proofs.KebabCase
import ServiceSpec.Proofs.Conditions
import ServiceSpec.Proofs.DisjointGroups
