import RenderSource.Renderer.Load
import RenderSource.Report
import RenderSource.Proofs.Buffer.Cutting
import RenderSource.Proofs.Buffer.Decoding
import RenderSource.Proofs.Buffer.Merging
import RenderSource.Proofs.Buffer.Settings
import RenderSource.Proofs.Calendar.Clock
import RenderSource.Proofs.Calendar.Ordinal
import RenderSource.Proofs.Code.Beginnings
import RenderSource.Proofs.Code.Displays
import RenderSource.Proofs.Code.Fronts
import RenderSource.Proofs.Code.InsideExact
import RenderSource.Proofs.Code.InsideRows
import RenderSource.Proofs.Code.Lexemes
import RenderSource.Proofs.Code.Pieces
import RenderSource.Proofs.Code.Quiet
import RenderSource.Proofs.Code.Reading
import RenderSource.Proofs.Code.Regions
import RenderSource.Proofs.Code.Rows
import RenderSource.Proofs.Code.RowScans
import RenderSource.Proofs.Code.Scanning
import RenderSource.Proofs.Code.Soundness
import RenderSource.Proofs.Code.Spelling
import RenderSource.Proofs.Code.Statements
import RenderSource.Proofs.Code.StringEnds
import RenderSource.Proofs.Expression.Emission
import RenderSource.Proofs.Expression.Fitness
import RenderSource.Proofs.Expression.Meaning
import RenderSource.Proofs.Expression.ReadBack
import RenderSource.Proofs.Expression.Tree
import RenderSource.Proofs.Expression.Writing
import RenderSource.Proofs.Library.Placing
import RenderSource.Proofs.Library.Rows
import RenderSource.Proofs.Literal.Building
import RenderSource.Proofs.Literal.Plain
import RenderSource.Proofs.Literal.RoundTrip
import RenderSource.Proofs.Literal.Steps
import RenderSource.Proofs.Literal.Walk
import RenderSource.Proofs.Number.Figures
import RenderSource.Proofs.Number.FloatForm
import RenderSource.Proofs.Number.FloatReading
import RenderSource.Proofs.Number.Rounding
import RenderSource.Proofs.Renderer.Body
import RenderSource.Proofs.Renderer.Compiled
import RenderSource.Proofs.Renderer.Loading
import RenderSource.Proofs.Renderer.Markup
import RenderSource.Proofs.Renderer.Names
import RenderSource.Proofs.Renderer.Reading
import RenderSource.Proofs.Renderer.Running
import RenderSource.Proofs.Renderer.Statements
import RenderSource.Proofs.Renderer.Written
import RenderSource.Proofs.Run.Steps
import RenderSource.Proofs.Text.Closing
import RenderSource.Proofs.Text.Fitness
import RenderSource.Proofs.Text.Quoting
import RenderSource.Proofs.Value.Cells
import RenderSource.Proofs.Buffer.Groups
import RenderSource.Proofs.Renderer.Hygiene
import RenderSource.Proofs.Renderer.Steps
import RenderSource.Proofs.Renderer.Outline
import RenderSource.Proofs.Renderer.Blocks
import RenderSource.Proofs.Renderer.Outside
import RenderSource.Proofs.Renderer.Outcome
import RenderSource.Proofs.Renderer.Callable
import RenderSource.Proofs.Buffer.Refusals
import RenderSource.Proofs.Literal.Calendar
import RenderSource.Proofs.Literal.Rebuilding
import RenderSource.Proofs.Code.Moving
import RenderSource.Proofs.Buffer.Indenting
import RenderSource.Proofs.Buffer.Foreign
import RenderSource.Proofs.Buffer.Requirements
import RenderSource.Proofs.Expression.Offenders
import RenderSource.Proofs.Text.ShownLines
import RenderSource.Proofs.Renderer.Located
import RenderSource.Proofs.Run.Failures
import RenderSource.Proofs.Library.Failures
import RenderSource.Proofs.Renderer.Failures
import RenderSource.Proofs.Renderer.Shown
import RenderSource.Proofs.Text.Entities
import RenderSource.Proofs.Text.Component
import RenderSource.Proofs.Literal.Sentinels
import RenderSource.Proofs.Buffer.Stamping
import RenderSource.Proofs.Renderer.Version
import RenderSource.Proofs.Library.Merging
import RenderSource.Proofs.Library.Paths
import RenderSource.Proofs.Code.LiteralEnds
import RenderSource.Proofs.Literal.Depth
import RenderSource.Proofs.Renderer.Hiding
