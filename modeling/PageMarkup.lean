import PageMarkup.Main
import PageMarkup.Proofs.Compile.Locality
import PageMarkup.Proofs.Compile.Page
import PageMarkup.Proofs.Compile.Walk
import PageMarkup.Proofs.Document.Stored
import PageMarkup.Proofs.Import.Neighbours
import PageMarkup.Proofs.Import.Rendered
import PageMarkup.Proofs.Import.Skeleton
import PageMarkup.Proofs.Import.WellFormed
import PageMarkup.Proofs.Republish
import PageMarkup.Proofs.Sync
import PageMarkup.Proofs.Import.Shown
import PageMarkup.Proofs.Toml.Lines
import PageMarkup.Proofs.Config
import PageMarkup.Proofs.Entity
import PageMarkup.Proofs.Html.Spacing
import PageMarkup.Proofs.Html.Sections
import PageMarkup.Proofs.Html.Noise
import PageMarkup.Proofs.Import.Noise
import PageMarkup.Proofs.Import.Readings
import PageMarkup.Proofs.Import.Keeping
import PageMarkup.Proofs.Import.Lossless
import PageMarkup.Proofs.XmlRpc
import PageMarkup.Proofs.Import.Stylesheets
import PageMarkup.Proofs.Markup.Conserving
import PageMarkup.Proofs.Import.Layers
import PageMarkup.Proofs.Import.Backdrops
import PageMarkup.Proofs.Import.Loose
import PageMarkup.Proofs.Restricted.Functions
import PageMarkup.Proofs.Html.Spans
import PageMarkup.Proofs.Compile.Filtering
import PageMarkup.Proofs.Restricted.Messages
import PageMarkup.Proofs.Clip
import PageMarkup.Proofs.Html.Images
import PageMarkup.Proofs.Template.Layout
import PageMarkup.Proofs.Confinement
