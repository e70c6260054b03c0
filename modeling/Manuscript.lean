import Manuscript.Main
import Manuscript.Wire.Structure
import Manuscript.Proofs.Workspace.Edit
import Manuscript.Proofs.Server.Freshness
import Manuscript.Proofs.Text.Bytes
import Manuscript.Proofs.Text.Position
import Manuscript.Proofs.Text.Placement
import Manuscript.Proofs.Latex.Group
import Manuscript.Proofs.Latex.Placement
import Manuscript.Proofs.Bibtex.Placement
import Manuscript.Proofs.Bibtex.MarkupReading
import Manuscript.Proofs.Rename.Exactness
import Manuscript.Proofs.Text.Form
import Manuscript.Proofs.Latex.Lookahead
import Manuscript.Proofs.Latex.Respelling
import Manuscript.Proofs.Latex.RespeltScan
import Manuscript.Proofs.Latex.RespeltStructure
import Manuscript.Proofs.Latex.MarkupReading
import Manuscript.Proofs.Workspace.Map
import Manuscript.Proofs.Workspace.Preorder
import Manuscript.Proofs.Rename.Application
import Manuscript.Proofs.Rename.Label
import Manuscript.Proofs.Rename.Origin
import Manuscript.Proofs.Bibtex.Reading
import Manuscript.Proofs.Bibtex.Lookahead
import Manuscript.Proofs.Bibtex.Respelling
import Manuscript.Proofs.Rename.Citation
import Manuscript.Proofs.Workspace.Component
import Manuscript.Proofs.Query.Order
import Manuscript.Proofs.Workspace.Sources
import Manuscript.Proofs.Text.Column
import Manuscript.Proofs.Bytewise.Answer
import Manuscript.Proofs.Text.Stretch
import Manuscript.Proofs.Latex.Told
import Manuscript.Proofs.Latex.Faithful
import Manuscript.Proofs.Latex.Nesting
import Manuscript.Proofs.Fold.Lines
import Manuscript.Proofs.Fold.Ranges
import Manuscript.Proofs.Fold.Crossing
import Manuscript.Proofs.Bibtex.Faithful
import Manuscript.Proofs.Workspace.Session
import Manuscript.Proofs.Workspace.Dependents
import Manuscript.Proofs.Text.Shift
import Manuscript.Proofs.Latex.Shift
import Manuscript.Proofs.Latex.Recovery
import Manuscript.Proofs.Bibtex.Shift
import Manuscript.Proofs.Bibtex.Recovery
import Manuscript.Proofs.Bibtex.Pointing
import Manuscript.Proofs.Query.Labels
import Manuscript.Proofs.Latex.Balance
import Manuscript.Proofs.Latex.Option
import Manuscript.Proofs.Latex.Ahead
import Manuscript.Proofs.Latex.Remark
import Manuscript.Proofs.Latex.Outline
import Manuscript.Proofs.Latex.Exposed
import Manuscript.Proofs.Pattern.Reading
import Manuscript.Proofs.Completion.Context
import Manuscript.Proofs.Completion.Agreement
import Manuscript.Proofs.Completion.Offers
import Manuscript.Proofs.Latex.Token
import Manuscript.Proofs.Completion.Command
import Manuscript.Proofs.Completion.Inclusion
import Manuscript.Proofs.Latex.Regrouping
import Manuscript.Proofs.Query.Reference
import Manuscript.Proofs.Completion.Comment
import Manuscript.Proofs.Completion.Matching
