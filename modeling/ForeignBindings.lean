import ForeignBindings.Main
import ForeignBindings.FileTree
import ForeignBindings.Proofs.Deduplication
import ForeignBindings.Proofs.CallAgreement
import ForeignBindings.Proofs.AddressExposure
import ForeignBindings.Proofs.DefinedFunctions
import ForeignBindings.Proofs.HelperNames
import ForeignBindings.Proofs.DepthFirst
import ForeignBindings.Proofs.Repetition
import ForeignBindings.Proofs.KindPriority
import ForeignBindings.Proofs.SharedIdentifier
import ForeignBindings.Proofs.MethodOwners
import ForeignBindings.Proofs.CallbackTable
import ForeignBindings.Proofs.TypeNames
import ForeignBindings.Proofs.CallbackSection
import ForeignBindings.Proofs.CallbackFunctions
import ForeignBindings.Proofs.ScopeNames
import ForeignBindings.Proofs.DocComments
import ForeignBindings.Proofs.UnresolvedTypes
import ForeignBindings.Proofs.UnresolvedCallbacks
import ForeignBindings.Proofs.RunFrame
import ForeignBindings.Proofs.SharedMapper
import ForeignBindings.Proofs.HelperGroups
import ForeignBindings.Proofs.OwnerRelease
import ForeignBindings.Proofs.ReleaseSignature
import ForeignBindings.Proofs.ArrayExtents
import ForeignBindings.Proofs.CallbackLinks
import ForeignBindings.Proofs.EnumStorage
import ForeignBindings.Proofs.SelfAliases
import ForeignBindings.Proofs.Shape
import ForeignBindings.Proofs.PointerToArray
import ForeignBindings.Proofs.ParameterDecay
import ForeignBindings.Proofs.CharacterPointers
import ForeignBindings.Proofs.ValidIdentifier
import ForeignBindings.Proofs.WellFormedMapping
import ForeignBindings.Proofs.CallbackOffers
import ForeignBindings.Proofs.FunctionPointer
import ForeignBindings.Proofs.AddressFields
import ForeignBindings.Proofs.ArrayRows
import ForeignBindings.Proofs.Constness
import ForeignBindings.Proofs.Spacing
import ForeignBindings.Proofs.OriginalSpelling
import ForeignBindings.Proofs.IntegerLiteral
import ForeignBindings.Proofs.LiteralGrammar
import ForeignBindings.Proofs.EnumeratorValues
import ForeignBindings.Proofs.EnumCombinations
import ForeignBindings.Proofs.WrittenSections
import ForeignBindings.Proofs.ModuleName
import ForeignBindings.Proofs.CamelCase
import ForeignBindings.Proofs.ExtentDescent
import ForeignBindings.Proofs.Document.SameTree
