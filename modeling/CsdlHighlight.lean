import CsdlHighlight.Main
import CsdlHighlight.FileTree.Program
import CsdlHighlight.Proofs.Classification.Composition
import CsdlHighlight.Proofs.Classification.Partition
import CsdlHighlight.Proofs.Classification.Scan
import CsdlHighlight.Proofs.Markup.Fragment
import CsdlHighlight.Proofs.Spans.CommentSegments
import CsdlHighlight.Proofs.Spans.StringParity
import CsdlHighlight.Proofs.Markup.Reading
import CsdlHighlight.Proofs.Page.Reading
import CsdlHighlight.Proofs.FileTree.Directory
import CsdlHighlight.Proofs.GistDirectory.Confinement
import CsdlHighlight.Proofs.Json.Literal
import CsdlHighlight.Proofs.Snippet.RoundTrip
import CsdlHighlight.Proofs.Script.Payload
import CsdlHighlight.Proofs.Script.WriteCall
import CsdlHighlight.Proofs.Preview.Agreement
import CsdlHighlight.Proofs.Text.Utf8
import CsdlHighlight.Proofs.Toml.Escape
import CsdlHighlight.Proofs.Toml.Quotation
import CsdlHighlight.Proofs.Toml.Document
import CsdlHighlight.Proofs.Config.Document
import CsdlHighlight.Proofs.FileTree.Writing
import CsdlHighlight.Proofs.Config.RoundTrip
import CsdlHighlight.Proofs.FileTree.Reading
import CsdlHighlight.Proofs.CommandLine.ServedDirectory
import CsdlHighlight.Proofs.Classification.Escapes
import CsdlHighlight.Proofs.Spans.LineComment
import CsdlHighlight.Proofs.FileTree.Frame
import CsdlHighlight.Proofs.CommandLine.Footprint
import CsdlHighlight.Proofs.GistDirectory.Served
import CsdlHighlight.Proofs.GistDirectory.Outcome
import CsdlHighlight.Proofs.Classification.LetterCase
import CsdlHighlight.Proofs.Preview.Styles
import CsdlHighlight.Proofs.Config.Saving
import CsdlHighlight.Proofs.CommandLine.Endings
import CsdlHighlight.Proofs.Sequence.Traversal
import CsdlHighlight.Proofs.Word.Rules
