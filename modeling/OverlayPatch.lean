import OverlayPatch.Allocation
import OverlayPatch.Architecture
import OverlayPatch.Assembly
import OverlayPatch.Batch
import OverlayPatch.Bytes.Base64
import OverlayPatch.Bytes.Crc32
import OverlayPatch.Command.Arguments
import OverlayPatch.Command.Console
import OverlayPatch.Command.Options
import OverlayPatch.Command.Run
import OverlayPatch.Command.Trouble
import OverlayPatch.Declaration
import OverlayPatch.Directive
import OverlayPatch.Document
import OverlayPatch.DryRun
import OverlayPatch.Encoder
import OverlayPatch.Engine
import OverlayPatch.Failure
import OverlayPatch.Fault
import OverlayPatch.FileTree
import OverlayPatch.Glob
import OverlayPatch.Journal
import OverlayPatch.Main
import OverlayPatch.Marker
import OverlayPatch.Markup.Element
import OverlayPatch.Markup.Encoding
import OverlayPatch.Markup.Entity
import OverlayPatch.Markup.Header
import OverlayPatch.Markup.Letter
import OverlayPatch.Markup.Model
import OverlayPatch.Markup.Prolog
import OverlayPatch.Markup.Reader
import OverlayPatch.Markup.Scope
import OverlayPatch.Markup.Token
import OverlayPatch.Number.Digit
import OverlayPatch.Number.Hex
import OverlayPatch.Number.Literal
import OverlayPatch.Patch
import OverlayPatch.Path
import OverlayPatch.Report
import OverlayPatch.Routine
import OverlayPatch.Settings
import OverlayPatch.SourceFile
import OverlayPatch.Text.Blank
import OverlayPatch.Text.CodePage
import OverlayPatch.Text.Identifier
import OverlayPatch.Text.Line
import OverlayPatch.Text.Quoted
import OverlayPatch.Text.Replacement
import OverlayPatch.Text.Scan
import OverlayPatch.Text.Similar
import OverlayPatch.Text.Template
import OverlayPatch.Text.Utf8
import OverlayPatch.Text.Word
import OverlayPatch.Proofs.Region
import OverlayPatch.Proofs.Results
import OverlayPatch.Proofs.Stage
import OverlayPatch.Proofs.Allocation
import OverlayPatch.Proofs.Resolution
import OverlayPatch.Proofs.Linking
import OverlayPatch.Proofs.Layout
import OverlayPatch.Proofs.Faults
import OverlayPatch.Proofs.Batch
import OverlayPatch.Proofs.Numerals
import OverlayPatch.Proofs.Literals
import OverlayPatch.Proofs.Reading
import OverlayPatch.Proofs.RoundTrip
import OverlayPatch.Proofs.Scan
import OverlayPatch.Proofs.Hexadecimal
import OverlayPatch.Proofs.Headers
import OverlayPatch.Proofs.Directives
import OverlayPatch.Proofs.Printing
import OverlayPatch.Proofs.Deletion
import OverlayPatch.Proofs.Sources
import OverlayPatch.Proofs.Independence
import OverlayPatch.Proofs.Interleaving
import OverlayPatch.Proofs.Relinking
import OverlayPatch.Proofs.AddressSpace
import OverlayPatch.Proofs.Attempts
import OverlayPatch.Proofs.Saving
import OverlayPatch.Proofs.Outcome
import OverlayPatch.Proofs.Markers
import OverlayPatch.Proofs.HookLines
import OverlayPatch.Proofs.Origins
import OverlayPatch.Proofs.Naming
import OverlayPatch.Proofs.Branches
import OverlayPatch.Proofs.Aliases
import OverlayPatch.Proofs.Strictness
import OverlayPatch.Proofs.Bodies
import OverlayPatch.Proofs.LaterAliases
import OverlayPatch.Proofs.ReadErrors
import OverlayPatch.Proofs.Rejections
import OverlayPatch.Proofs.Attribution
import OverlayPatch.Proofs.LoadAddress
