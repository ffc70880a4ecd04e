import JsLiteral.Text.Blank
import JsLiteral.Text.Decimal
import JsLiteral.Text.Quoted
import JsLiteral.Text.Utf8
import JsLiteral.Text.Breaks
import JsLiteral.Text.Words
import JsLiteral.Number.Layout
import JsLiteral.Number.Numeral
import JsLiteral.Failure
import JsLiteral.Value
import JsLiteral.Json.Stringify
import JsLiteral.Placeholder
import JsLiteral.Template.Bodies
import JsLiteral.Template.Dedent
import JsLiteral.Template.Eligible
import JsLiteral.Json.Compact
import JsLiteral.Json.Reader
import JsLiteral.Settings
import JsLiteral.Version
import JsLiteral.Conversion
import JsLiteral.Session
import JsLiteral.CommandLine.Program
import JsLiteral.Main
import JsLiteral.Proofs.Template.RoundTrip
import JsLiteral.Proofs.Placeholder.Tokens
import JsLiteral.Proofs.Placeholder.Literal
import JsLiteral.Proofs.Placeholder.Splice
import JsLiteral.Proofs.Placeholder.Sequence
import JsLiteral.Proofs.World
import JsLiteral.Proofs.Json.Strings
import JsLiteral.Proofs.Json.Numbers
import JsLiteral.Proofs.Number.Rounding
import JsLiteral.Proofs.Number.Shortest
import JsLiteral.Proofs.Number.Nearest
import JsLiteral.Proofs.Json.Floats
import JsLiteral.Proofs.Json.Numerals
import JsLiteral.Proofs.Json.Calls
import JsLiteral.Proofs.Json.Rewriting
import JsLiteral.Proofs.Json.Tree
import JsLiteral.Proofs.Json.Pieces
import JsLiteral.Proofs.Text.Count
import JsLiteral.Proofs.Json.Printed
import JsLiteral.Proofs.Json.Document
import JsLiteral.Proofs.Walk
import JsLiteral.Proofs.Json.Contents
import JsLiteral.Proofs.Json.Printing
import JsLiteral.Proofs.Pairing
import JsLiteral.Proofs.Json.Reading
import JsLiteral.Proofs.Template.Woven
import JsLiteral.Proofs.Placeholder.Arrangement
import JsLiteral.Proofs.Evaluation
import JsLiteral.Proofs.Skeleton
import JsLiteral.Proofs.Marker
import JsLiteral.Proofs.Conversion
import JsLiteral.Proofs.Collision
import JsLiteral.Proofs.Escaped
import JsLiteral.Proofs.Edges
import JsLiteral.Proofs.Residue
import JsLiteral.Proofs.Encodable
import JsLiteral.Proofs.Invisible
import JsLiteral.Proofs.Script.Literal
import JsLiteral.Proofs.Script.Numbers
import JsLiteral.Proofs.Script.Reading
import JsLiteral.Proofs.Script.Faithful
import JsLiteral.Proofs.CommandLine.Writing
import JsLiteral.Proofs.Frame
import JsLiteral.Proofs.Json.Quoting
import JsLiteral.Proofs.Json.Compact
import JsLiteral.Proofs.Json.Loading
import JsLiteral.Proofs.Number.Setting
import JsLiteral.Proofs.Process
import JsLiteral.Proofs.Stages
import JsLiteral.Proofs.Session
import JsLiteral.Proofs.CommandLine.AllOrNothing
import JsLiteral.Proofs.CommandLine.Escaping
import JsLiteral.Proofs.CommandLine.Refusals
import JsLiteral.Proofs.Json.Graph
import JsLiteral.Proofs.Json.Unfolding
import JsLiteral.Proofs.Json.Streamed
import JsLiteral.Proofs.Template.Reading
import JsLiteral.Proofs.Template.Indentation
import JsLiteral.Proofs.Alignment
