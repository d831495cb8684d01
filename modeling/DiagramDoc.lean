import DiagramDoc.Cli.Run
import DiagramDoc.Main
import DiagramDoc.Page
import DiagramDoc.Rendering
import DiagramDoc.Proofs.Deflate.Bits
import DiagramDoc.Proofs.Deflate.Words
import DiagramDoc.Proofs.Deflate.Assignment
import DiagramDoc.Proofs.Deflate.Runs
import DiagramDoc.Proofs.Deflate.Header
import DiagramDoc.Proofs.Deflate.Blocks
import DiagramDoc.Proofs.Deflate.Copies
import DiagramDoc.Proofs.Deflate.Parsing
import DiagramDoc.Proofs.Deflate.Compression
import DiagramDoc.Proofs.PlantUml.Encoding
import DiagramDoc.Proofs.Document.Anchors
import DiagramDoc.Proofs.Diagram.Sequence.Pieces
import DiagramDoc.Proofs.Text.Lines
import DiagramDoc.Proofs.Text.Words
import DiagramDoc.Proofs.Diagram.Sequence.Shapes
import DiagramDoc.Proofs.Diagram.Sequence.LineStarts
import DiagramDoc.Proofs.Diagram.Sequence.Passes
import DiagramDoc.Proofs.Diagram.ReservedWords
import DiagramDoc.Proofs.Diagram.Sequence.Idempotence
import DiagramDoc.Proofs.Diagram.Sequence.Rewriting
import DiagramDoc.Proofs.Diagram.Flow.Labels
import DiagramDoc.Proofs.Diagram.Flow.Reading
import DiagramDoc.Proofs.Diagram.Flow.Rescan
import DiagramDoc.Proofs.Diagram.Flow.Idempotence
import DiagramDoc.Proofs.Diagram.Flow.Spans
import DiagramDoc.Proofs.Diagram.Sequence.References
import DiagramDoc.Proofs.Diagram.Flow.Edits
import DiagramDoc.Proofs.Diagram.Headers
import DiagramDoc.Proofs.Diagram.Quoting
import DiagramDoc.Proofs.Html.Tags
import DiagramDoc.Proofs.Html.Nesting
import DiagramDoc.Proofs.Document.Slugs
import DiagramDoc.Proofs.Document.Skeleton
import DiagramDoc.Proofs.Document.Shapes
import DiagramDoc.Proofs.Document.Nesting
import DiagramDoc.Proofs.Diagram.Sequence.Locality
import DiagramDoc.Proofs.Document.CodeBlocks
import DiagramDoc.Proofs.Document.Handler
import DiagramDoc.Proofs.Document.Headings
import DiagramDoc.Proofs.Diagram.Placeholders
import DiagramDoc.Proofs.Diagram.Reuse
import DiagramDoc.Proofs.Cli.Results
import DiagramDoc.Proofs.Config.Overrides
import DiagramDoc.Proofs.Document.Contents
import DiagramDoc.Proofs.Document.Attributes
import DiagramDoc.Proofs.Document.InfoStrings
import DiagramDoc.Proofs.Files.Writing
import DiagramDoc.Proofs.Cli.Options
import DiagramDoc.Proofs.Diagram.Containers
import DiagramDoc.Proofs.Document.Images
import DiagramDoc.Proofs.Config.ReservedWords
import DiagramDoc.Proofs.Cli.Agreement
import DiagramDoc.Proofs.Config.Templates
import DiagramDoc.Proofs.Config.BareDollars
import DiagramDoc.Proofs.PlantUml.Addresses
import DiagramDoc.Proofs.Diagram.Drawing
import DiagramDoc.Proofs.Diagram.Preambles
import DiagramDoc.Proofs.Html.VisibleText
import DiagramDoc.Proofs.Document.HeadingText
import DiagramDoc.Proofs.Document.Tables
import DiagramDoc.Proofs.Document.RenderOptions
import DiagramDoc.Proofs.PlantUml.Markers
import DiagramDoc.Proofs.Config.Discovery
import DiagramDoc.Proofs.Document.Pages
