import TemplateServer.Main
import TemplateServer.Proofs.Completion
import TemplateServer.Proofs.Definition
import TemplateServer.Proofs.Dictionary
import TemplateServer.Proofs.FileSystem.Change
import TemplateServer.Proofs.FileSystem.Spelling
import TemplateServer.Proofs.Json.Members
import TemplateServer.Proofs.Markup.Accesses
import TemplateServer.Proofs.Markup.ByteClass
import TemplateServer.Proofs.Markup.Cuts
import TemplateServer.Proofs.Markup.Delimiters
import TemplateServer.Proofs.Markup.Edges
import TemplateServer.Proofs.Markup.Grammar
import TemplateServer.Proofs.Markup.InPlace
import TemplateServer.Proofs.Markup.OpenTag
import TemplateServer.Proofs.Markup.Passing
import TemplateServer.Proofs.Markup.Progress
import TemplateServer.Proofs.Markup.RoundTrip
import TemplateServer.Proofs.Markup.Scope
import TemplateServer.Proofs.Markup.Settling
import TemplateServer.Proofs.Markup.Spans
import TemplateServer.Proofs.Markup.Stability
import TemplateServer.Proofs.Markup.Translation
import TemplateServer.Proofs.Markup.Values
import TemplateServer.Proofs.Markup.Written
import TemplateServer.Proofs.Markup.WrittenScope
import TemplateServer.Proofs.Server.Calls
import TemplateServer.Proofs.Server.Coherence
import TemplateServer.Proofs.Server.Independence
import TemplateServer.Proofs.Server.Inspection
import TemplateServer.Proofs.Server.Interleaving
import TemplateServer.Proofs.Server.Offers
import TemplateServer.Proofs.Server.Registration
import TemplateServer.Proofs.Server.Synchronisation
import TemplateServer.Proofs.Server.Unresolved
import TemplateServer.Proofs.Settings.Layering
import TemplateServer.Proofs.Settings.Resolution
import TemplateServer.Proofs.Taglib.Declarations
import TemplateServer.Proofs.Taglib.Faults
import TemplateServer.Proofs.Taglib.Precedence
import TemplateServer.Proofs.Taglib.Provenance
import TemplateServer.Proofs.Taglib.Roots
import TemplateServer.Proofs.Taglib.Scanning
import TemplateServer.Proofs.Taglib.Spelling
import TemplateServer.Proofs.Taglib.Transparency
import TemplateServer.Proofs.Taglib.Watching
import TemplateServer.Proofs.Text.Boundary
import TemplateServer.Proofs.Text.ByteOrder
import TemplateServer.Proofs.Text.Clamping
import TemplateServer.Proofs.Text.Lines
import TemplateServer.Proofs.Text.Offset
import TemplateServer.Proofs.Text.Position
import TemplateServer.Proofs.Text.Search
import TemplateServer.Proofs.Text.Splicing
