import Broadsheet.Main
import Broadsheet.Host.Described
import Broadsheet.Style.ThemeFile
import Broadsheet.Html.Markup
import Broadsheet.Proofs.Text.Replacing
import Broadsheet.Proofs.Style.Cascade
import Broadsheet.Proofs.Html.Nesting
import Broadsheet.Proofs.Html.StyleValues
import Broadsheet.Proofs.Html.Imageless
import Broadsheet.Proofs.Document.Drawing
import Broadsheet.Proofs.Document.Outcomes
import Broadsheet.Proofs.Document.Captures
import Broadsheet.Proofs.Document.WellFormed
import Broadsheet.Proofs.Document.Composition
import Broadsheet.Proofs.Document.Wrapping
import Broadsheet.Proofs.Document.Citing
import Broadsheet.Proofs.Document.Standing
import Broadsheet.Proofs.Document.Context
import Broadsheet.Proofs.Document.Listing
import Broadsheet.Proofs.Document.Exporting
import Broadsheet.Proofs.Document.ShownText
import Broadsheet.Proofs.Diagram.Caching
import Broadsheet.Proofs.Document.Coupling
import Broadsheet.Proofs.Stylesheet.Memoizing
import Broadsheet.Proofs.Document.Faults
import Broadsheet.Proofs.Document.Presentation
import Broadsheet.Proofs.CommandLine.Effects
import Broadsheet.Proofs.Config.Overriding
import Broadsheet.Proofs.Config.References
import Broadsheet.Proofs.Style.Resolving
import Broadsheet.Proofs.Document.Figures
import Broadsheet.Proofs.Document.Margins
import Broadsheet.Proofs.Diagram.Failing
import Broadsheet.Proofs.Style.Layering
import Broadsheet.Proofs.Document.Fences
import Broadsheet.Proofs.Document.Attributes
import Broadsheet.Proofs.Document.Fragments
import Broadsheet.Proofs.Document.Flattening
import Broadsheet.Proofs.Document.Labels
import Broadsheet.Proofs.Document.Marking
import Broadsheet.Proofs.Config.Choosing
import Broadsheet.Proofs.Style.Declarations
import Broadsheet.Proofs.Html.Decoding
import Broadsheet.Proofs.Document.Siblings
