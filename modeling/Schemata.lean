import Schemata.Build.Dispatch
import Schemata.Document
import Schemata.Render.DesugarDepth
import Schemata.Tree.Reader
import Schemata.Proofs.Equality
import Schemata.Proofs.Spelling
import Schemata.Proofs.Construct
import Schemata.Proofs.Defaults
import Schemata.Proofs.ExplicitKind
import Schemata.Proofs.Desugars
import Schemata.Proofs.Settle
import Schemata.Proofs.Boxing
import Schemata.Proofs.Builtin
import Schemata.Proofs.Promotion
import Schemata.Proofs.Composition
import Schemata.Proofs.Levels
import Schemata.Proofs.Parts
import Schemata.Proofs.EqualTrees
import Schemata.Proofs.Failures
import Schemata.Proofs.Placement
import Schemata.Proofs.Regular
import Schemata.Proofs.Vocabulary
import Schemata.Proofs.Respelling
import Schemata.Proofs.Flags
import Schemata.Proofs.DistinctChoices
import Schemata.Proofs.BareContainer
import Schemata.Proofs.Finished
import Schemata.Proofs.WellTyped
import Schemata.Proofs.KeyOrder
import Schemata.Proofs.DesugarOrder
import Schemata.Proofs.Atomic
import Schemata.Proofs.Tags
import Schemata.Proofs.Payload
import Schemata.Proofs.RenamedKind
import Schemata.Proofs.Children
import Schemata.Proofs.NormalForms
import Schemata.Proofs.Remainder
import Schemata.Proofs.Stripping
import Schemata.Proofs.Steady
import Schemata.Proofs.Seeding
import Schemata.Proofs.Dispatch
import Schemata.Proofs.EqualNodes
import Schemata.Proofs.OrderedChildren
import Schemata.Proofs.AttributeOrder
import Schemata.Proofs.SettingDefaults
import Schemata.Proofs.CanonicalNames
import Schemata.Proofs.RoundTrip
