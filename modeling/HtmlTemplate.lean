import HtmlTemplate.Main
import HtmlTemplate.Proofs.Agreement
import HtmlTemplate.Proofs.Balance
import HtmlTemplate.Proofs.Comment
import HtmlTemplate.Proofs.Css
import HtmlTemplate.Proofs.DepthLimit
import HtmlTemplate.Proofs.Exchange
import HtmlTemplate.Proofs.Names
import HtmlTemplate.Proofs.OuterContext
import HtmlTemplate.Proofs.Refusal
import HtmlTemplate.Proofs.Binding
import HtmlTemplate.Proofs.Scheme
import HtmlTemplate.Proofs.Iteration
import HtmlTemplate.Proofs.Composition
import HtmlTemplate.Proofs.Locality
import HtmlTemplate.Proofs.Spacing
import HtmlTemplate.Proofs.Splicing
import HtmlTemplate.Proofs.Equality
import HtmlTemplate.Proofs.Negation
import HtmlTemplate.Proofs.References
import HtmlTemplate.Proofs.Constructs
import HtmlTemplate.Proofs.Compact
import HtmlTemplate.Proofs.Layout
import HtmlTemplate.Proofs.Tree
import HtmlTemplate.Proofs.Keywords
import HtmlTemplate.Proofs.Absence
import HtmlTemplate.Proofs.Nesting
import HtmlTemplate.Proofs.Containers
import HtmlTemplate.Proofs.Memory
import HtmlTemplate.Proofs.Copying
import HtmlTemplate.Proofs.Members
import HtmlTemplate.Proofs.Retention
import HtmlTemplate.Proofs.WellFormed
import HtmlTemplate.Proofs.Literal
import HtmlTemplate.Proofs.Truncation
