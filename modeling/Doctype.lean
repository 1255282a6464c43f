import Doctype.FileTree
import Doctype.Main
import Doctype.Template.Lemmas
import Doctype.Proofs.Cursor.Nesting
import Doctype.Proofs.Cursor.Seam
import Doctype.Proofs.Cursor.Walks
import Doctype.Proofs.Source.Ending
import Doctype.Proofs.Source.Expansion
import Doctype.Proofs.Source.Faults
import Doctype.Proofs.Source.History
import Doctype.Proofs.Source.Passage
import Doctype.Proofs.Source.Turns
import Doctype.Proofs.Model.Bindings
import Doctype.Proofs.Model.Precedence
import Doctype.Proofs.Model.Table
import Doctype.Proofs.Parser.Beside
import Doctype.Proofs.Parser.Closing
import Doctype.Proofs.Parser.Congruence
import Doctype.Proofs.Parser.ContentGrammar
import Doctype.Proofs.Parser.Declarations
import Doctype.Proofs.Parser.Effects
import Doctype.Proofs.Parser.Extension
import Doctype.Proofs.Parser.Faults
import Doctype.Proofs.Parser.Frame
import Doctype.Proofs.Parser.Growth
import Doctype.Proofs.Parser.Inclusion
import Doctype.Proofs.Parser.Instructions
import Doctype.Proofs.Parser.Lexemes
import Doctype.Proofs.Parser.Nested
import Doctype.Proofs.Parser.Offline
import Doctype.Proofs.Parser.Reading
import Doctype.Proofs.Parser.Resume
import Doctype.Proofs.Parser.Runs
import Doctype.Proofs.Parser.Sections
import Doctype.Proofs.Parser.Transcript
import Doctype.Proofs.Parser.Twice
import Doctype.Proofs.Parser.WellFormed
import Doctype.Proofs.Print.Content
import Doctype.Proofs.Print.Declarations
import Doctype.Proofs.Print.Rebuilding
import Doctype.Proofs.Print.Regrouping
import Doctype.Proofs.Print.Roundtrip
import Doctype.Proofs.Print.Spelling
import Doctype.Proofs.Print.Taking
import Doctype.Proofs.Print.Writing
import Doctype.Proofs.Model.Segments
import Doctype.Proofs.Model.Locality
import Doctype.Proofs.Model.Reexpansion
import Doctype.Proofs.Parser.DeclarationGrammar
import Doctype.Proofs.Cursor.Positions
import Doctype.Proofs.Source.Ignoring
import Doctype.Proofs.Template.Rendering
import Doctype.Proofs.Template.Changes
import Doctype.Proofs.Template.Generation
import Doctype.Proofs.Template.Filling
import Doctype.Proofs.Output.Identifiers
import Doctype.Proofs.Output.Lines
import Doctype.Proofs.Output.Comments
import Doctype.Proofs.Template.Loading
import Doctype.Proofs.Model.Children
import Doctype.Proofs.Print.Quoting
import Doctype.Proofs.Cursor.Calls
import Doctype.Proofs.Parser.Lookahead
