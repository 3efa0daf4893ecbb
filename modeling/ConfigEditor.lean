import ConfigEditor.Document.Change
import ConfigEditor.Proofs.Document.Edits
import ConfigEditor.Main
import ConfigEditor.Proofs.Encoding
import ConfigEditor.Proofs.FileTree
import ConfigEditor.Proofs.RoundTrip
import ConfigEditor.Proofs.Actions
import ConfigEditor.Proofs.Document.Lookup
import ConfigEditor.Proofs.Commands
import ConfigEditor.Proofs.Document.Merge
import ConfigEditor.Proofs.Concatenation
import ConfigEditor.Proofs.FileChanges
import ConfigEditor.Proofs.ExitStatus
import ConfigEditor.Proofs.Equality
import ConfigEditor.Proofs.LineGroups
import ConfigEditor.Proofs.FoldedTokens
import ConfigEditor.Proofs.LineByLine
import ConfigEditor.Proofs.Layout
import ConfigEditor.Proofs.Report
import ConfigEditor.Proofs.Rows
import ConfigEditor.Proofs.Document.Outline
import ConfigEditor.Proofs.Document.Refinement
import ConfigEditor.Proofs.AcceptedValues
import ConfigEditor.Proofs.InlineComments
import ConfigEditor.Proofs.SectionArguments
import ConfigEditor.Proofs.HeaderGrammar
import ConfigEditor.Proofs.SectionIdentity
import ConfigEditor.Proofs.Document.MissingKeys
import ConfigEditor.Proofs.Document.Removal
import ConfigEditor.Proofs.Document.MergeLaws
import ConfigEditor.Proofs.Document.Answers
import ConfigEditor.Proofs.Document.Streams
import ConfigEditor.Proofs.Document.Queries
import ConfigEditor.Proofs.CommandOutput
