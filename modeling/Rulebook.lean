import Rulebook.Descriptor.Traffic
import Rulebook.Main
import Rulebook.Proofs.Compile.Agreement
import Rulebook.Proofs.Compile.Chain
import Rulebook.Proofs.Compile.Ending
import Rulebook.Proofs.Compile.Nesting
import Rulebook.Proofs.Attribute.Kinds
import Rulebook.Proofs.Attribute.Interpretation
import Rulebook.Proofs.Traffic.FirstLoad
import Rulebook.Proofs.Traffic.Drop
import Rulebook.Proofs.Compile.Unfolding
import Rulebook.Proofs.Compile.Absence
import Rulebook.Proofs.Compile.Depth
import Rulebook.Proofs.Compile.Visibility
import Rulebook.Proofs.Compile.IdleRules
import Rulebook.Proofs.Attribute.Display
import Rulebook.Proofs.Json.RoundTrip
import Rulebook.Proofs.Display.Asking
import Rulebook.Proofs.Display.Writing
import Rulebook.Proofs.Display.FrontEnds
import Rulebook.Proofs.Store.Paging
import Rulebook.Proofs.Attribute.Catalog
import Rulebook.Proofs.Attribute.Independence
import Rulebook.Proofs.Enrichment.Completion
import Rulebook.Proofs.Options.Search
import Rulebook.Proofs.Compile.Reordering
import Rulebook.Proofs.Attribute.Reordering
import Rulebook.Proofs.Evaluation.Duality
import Rulebook.Proofs.Attribute.Monotonicity
import Rulebook.Proofs.Attribute.Override
import Rulebook.Proofs.Value.Equality
import Rulebook.Proofs.Operator.Lists
import Rulebook.Proofs.Enrichment.Repetition
import Rulebook.Proofs.Options.Paging
import Rulebook.Proofs.Enrichment.Selected
import Rulebook.Proofs.Operator.Ordering
import Rulebook.Proofs.Operator.Opposites
import Rulebook.Proofs.ValueKind.Joining
import Rulebook.Proofs.Expr.RoundTrip
import Rulebook.Proofs.Store.Retrying
import Rulebook.Proofs.Store.Durability
