import SeriesClient.Text.Blank
import SeriesClient.Message
import SeriesClient.Url.Parser
import SeriesClient.Url.Form
import SeriesClient.Query
import SeriesClient.Config
import SeriesClient.Stream
import SeriesClient.Http.Api
import SeriesClient.Push.Client
import SeriesClient.Rehearsal.Run
import SeriesClient.Proofs.Push.Convergence
import SeriesClient.Proofs.Push.Delivery
import SeriesClient.Proofs.Push.Redial
import SeriesClient.Proofs.Insert.OneWrite
import SeriesClient.Proofs.Push.Ladder
import SeriesClient.Proofs.Push.Declined
import SeriesClient.Proofs.Push.Served
import SeriesClient.Proofs.Push.Overlap
import SeriesClient.Proofs.Push.Transcript
import SeriesClient.Proofs.Insert.Fallback
import SeriesClient.Proofs.Insert.Single
import SeriesClient.Proofs.Insert.Records
import SeriesClient.Proofs.Codec.RoundTrip
import SeriesClient.Proofs.Codec.TwoReads
import SeriesClient.Proofs.Handle.Shelf
import SeriesClient.Proofs.Handle.Mirror
import SeriesClient.Proofs.Handle.Conduct
import SeriesClient.Proofs.Http.Confined
import SeriesClient.Proofs.Listen.Audience
import SeriesClient.Proofs.Listen.CrossTalk
import SeriesClient.Proofs.Listen.Watch
import SeriesClient.Proofs.Query.Wire
import SeriesClient.Proofs.Http.Verbatim
import SeriesClient.Proofs.Http.ErrorText
import SeriesClient.Proofs.Codec.Forms
import SeriesClient.Proofs.Codec.Scalars
import SeriesClient.Proofs.Query.Indices
import SeriesClient.Proofs.Handle.Created
import SeriesClient.Proofs.Http.Count
