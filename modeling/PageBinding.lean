import PageBinding.Main
import PageBinding.Proofs.Command.Arguments
import PageBinding.Proofs.Document.Listed
import PageBinding.Proofs.Document.Lookup
import PageBinding.Proofs.Document.Members
import PageBinding.Proofs.Page.Dispatch
import PageBinding.Proofs.Page.History
import PageBinding.Proofs.Page.Markup
import PageBinding.Proofs.Reading.Escaped
import PageBinding.Proofs.Reading.InRange
import PageBinding.Proofs.Reading.OneKind
import PageBinding.Proofs.Reading.Verbatim
import PageBinding.Proofs.Run.Computed
import PageBinding.Proofs.Run.Rescope
import PageBinding.Proofs.Run.Safety
import PageBinding.Proofs.Source.Lines
import PageBinding.Proofs.Source.Numbers
import PageBinding.Proofs.Store.Commute
import PageBinding.Proofs.Text.Literal
import PageBinding.Proofs.Token.Spaced
import PageBinding.Proofs.Value.Finding
import PageBinding.Proofs.Value.NumberText
import PageBinding.Proofs.Value.Splitting
import PageBinding.Proofs.Value.Trimming
