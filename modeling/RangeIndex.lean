import RangeIndex.Index.Draft
import RangeIndex.Index.Layout
import RangeIndex.Index.Reader
import RangeIndex.Mixin.Resolve
import RangeIndex.Command.FileTree
import RangeIndex.Command.Program
import RangeIndex.Main
import RangeIndex.Proofs.Quoting
import RangeIndex.Proofs.LineText
import RangeIndex.Proofs.RecordFields
import RangeIndex.Proofs.ReaderSteps
import RangeIndex.Proofs.IndexFiles
import RangeIndex.Proofs.Grammar
import RangeIndex.Proofs.LayoutText
import RangeIndex.Proofs.RoundTrip
import RangeIndex.Proofs.FirstError
import RangeIndex.Proofs.NormalForm
import RangeIndex.Proofs.Concatenation
import RangeIndex.Proofs.Verdict
import RangeIndex.Proofs.Rejection
import RangeIndex.Proofs.SharedRegistry
import RangeIndex.Proofs.RegisteredTargets
import RangeIndex.Proofs.DeclaredTargets
import RangeIndex.Proofs.DraftHistory
import RangeIndex.Proofs.SoftInterfaces
import RangeIndex.Proofs.FieldGrammar
import RangeIndex.Proofs.LayoutErasure
import RangeIndex.Proofs.RecordShapes
import RangeIndex.Proofs.WrittenFields
import RangeIndex.Proofs.Nesting
import RangeIndex.Proofs.Merge
import RangeIndex.Proofs.Containment
import RangeIndex.Proofs.DescriptorGrammar
import RangeIndex.Proofs.Overlaps
import RangeIndex.Proofs.NamingPattern
import RangeIndex.Proofs.Pattern
import RangeIndex.Proofs.PatternGroups
import RangeIndex.Proofs.ReachableRegistry
import RangeIndex.Proofs.AccessorRecords
import RangeIndex.Proofs.AccessorKinds
import RangeIndex.Proofs.InfoHistory
import RangeIndex.Proofs.ShadowLookup
import RangeIndex.Proofs.MethodReferences
import RangeIndex.Proofs.MethodTables
import RangeIndex.Proofs.LineLayout
import RangeIndex.Proofs.SourceCheck
