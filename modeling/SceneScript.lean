import SceneScript.Ascending
import SceneScript.Breakdown
import SceneScript.Command.Arguments
import SceneScript.Command.Check
import SceneScript.Command.Run
import SceneScript.Cursor
import SceneScript.Cursor.Request
import SceneScript.Decimal.Basic
import SceneScript.Decimal.Shortest
import SceneScript.Diagnostic
import SceneScript.Discovery
import SceneScript.Excerpt
import SceneScript.FileTree
import SceneScript.Glob
import SceneScript.Glob.Search
import SceneScript.Grammar
import SceneScript.Grammar.Reader
import SceneScript.Instruction
import SceneScript.Interchange.Decoding
import SceneScript.Interchange.Encoding
import SceneScript.Interchange.Issue
import SceneScript.Json.Basic
import SceneScript.Json.Display
import SceneScript.Json.Reader
import SceneScript.Json.Writer
import SceneScript.Lint
import SceneScript.Main
import SceneScript.Manifest
import SceneScript.Path
import SceneScript.Position
import SceneScript.Proofs.Agreement
import SceneScript.Proofs.Ascending
import SceneScript.Proofs.Characters
import SceneScript.Proofs.CheckRun
import SceneScript.Proofs.Composition
import SceneScript.Proofs.CursorRun
import SceneScript.Proofs.Declarations
import SceneScript.Proofs.Derivation
import SceneScript.Proofs.Diagnosis
import SceneScript.Proofs.Discovery
import SceneScript.Proofs.Duration
import SceneScript.Proofs.Elementwise
import SceneScript.Proofs.Expectation
import SceneScript.Proofs.Findings
import SceneScript.Proofs.Following
import SceneScript.Proofs.HandOff
import SceneScript.Proofs.Json.Alike
import SceneScript.Proofs.Json.Assembly
import SceneScript.Proofs.Json.Denotation
import SceneScript.Proofs.Json.Lexical
import SceneScript.Proofs.Json.Scalars
import SceneScript.Proofs.Json.WriteRead
import SceneScript.Proofs.Layout
import SceneScript.Proofs.Lexeme
import SceneScript.Proofs.Lint
import SceneScript.Proofs.ManifestRules
import SceneScript.Proofs.MaximalRun
import SceneScript.Proofs.Numbering
import SceneScript.Proofs.Pairing
import SceneScript.Proofs.Parsing
import SceneScript.Proofs.Phrasing
import SceneScript.Proofs.Places
import SceneScript.Proofs.Precedence
import SceneScript.Proofs.Production
import SceneScript.Proofs.ReaderRun
import SceneScript.Proofs.Rendering
import SceneScript.Proofs.Respelling
import SceneScript.Proofs.Restamping
import SceneScript.Proofs.RoundTrip
import SceneScript.Proofs.Rows
import SceneScript.Proofs.Script
import SceneScript.Proofs.Search
import SceneScript.Proofs.Segmentation
import SceneScript.Proofs.Shift
import SceneScript.Proofs.Showing
import SceneScript.Proofs.Spellable
import SceneScript.Proofs.Spelling
import SceneScript.Proofs.Stage
import SceneScript.Proofs.Stamp
import SceneScript.Proofs.Streaming
import SceneScript.Proofs.Styling
import SceneScript.Proofs.ViablePrefix
import SceneScript.Proofs.WrittenPaths
import SceneScript.Table
import SceneScript.Text.Basic
import SceneScript.Text.Blank
import SceneScript.Text.Cells
import SceneScript.Text.Digit
import SceneScript.Text.Letter
import SceneScript.Text.Numeral
import SceneScript.Text.Printable
import SceneScript.Text.Quoted
import SceneScript.Text.Ranges
import SceneScript.Text.Styling
import SceneScript.Text.Utf8
import SceneScript.Token
import SceneScript.Toml.Basic
import SceneScript.Toml.Document
import SceneScript.Toml.Reader
import SceneScript.Toml.Scalar
