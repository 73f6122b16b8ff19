import CLexicon.Main
import CLexicon.Proofs.Catalogue.Merge
import CLexicon.Proofs.Operators.LongestMatch
import CLexicon.Proofs.Text.Boundary
import CLexicon.Proofs.Lexicon.Lookup
import CLexicon.Proofs.Lexicon.Operators
import CLexicon.Proofs.Catalogue.Survival
import CLexicon.Proofs.Classify.Coverage
import CLexicon.Proofs.Lexicon.Completeness
import CLexicon.Proofs.Scan.Folding
import CLexicon.Proofs.Catalogue.WellFormed
import CLexicon.Proofs.Lexicon.Precedence
import CLexicon.Proofs.Classify.SpanAt
import CLexicon.Proofs.Classify.LineByLine
import CLexicon.Proofs.Catalogue.Accounting
import CLexicon.Proofs.Catalogue.Redirects
import CLexicon.Proofs.Scan.Shapes
import CLexicon.Proofs.Scan.Context
import CLexicon.Proofs.Scan.Maximal
import CLexicon.Proofs.Classify.Soundness
import CLexicon.Proofs.Scan.LineContext
import CLexicon.Proofs.Scan.Directives
import CLexicon.Proofs.Classify.Handover
import CLexicon.Proofs.Classify.SameOperators
import CLexicon.Proofs.Catalogue.Ids
import CLexicon.Proofs.Catalogue.Aliases
import CLexicon.Proofs.Catalogue.Frame
import CLexicon.Proofs.Classify.Significant
import CLexicon.Proofs.Operators.NodeTable
import CLexicon.Proofs.Report.Fingerprints
import CLexicon.Proofs.Catalogue.Anchors
import CLexicon.Proofs.Text.Lines
import CLexicon.Proofs.Catalogue.Layout
import CLexicon.Proofs.Catalogue.Chains
import CLexicon.Proofs.Report.Escapes
import CLexicon.Proofs.Scan.Padded
import CLexicon.Proofs.Lexicon.Slots
