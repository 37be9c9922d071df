import MediaTags.Main
import MediaTags.Proofs.Chapters.Ordered
import MediaTags.Proofs.Normalize.LastValue
import MediaTags.Proofs.Bytes
import MediaTags.Proofs.Source.Cursor
import MediaTags.Proofs.Matroska.Chapter
import MediaTags.Proofs.Matroska.Description
import MediaTags.Proofs.Matroska.RoundTrip
import MediaTags.Proofs.Separators.LeftmostLongest
import MediaTags.Proofs.Separators.Joining
import MediaTags.Proofs.Normalize.Override
import MediaTags.Proofs.Matroska.Routing
import MediaTags.Proofs.IsoMedia.Fields
import MediaTags.Proofs.IsoMedia.Node
import MediaTags.Proofs.IsoMedia.TextSample
import MediaTags.Proofs.IsoMedia.SampleTable
import MediaTags.Proofs.IsoMedia.Track
import MediaTags.Proofs.IsoMedia.Description
import MediaTags.Proofs.IsoMedia.RoundTrip
import MediaTags.Proofs.Tag.Credits
import MediaTags.Proofs.Tag.Editing
import MediaTags.Proofs.Matroska.Alone
import MediaTags.Proofs.Matroska.SeekHead
import MediaTags.Proofs.Opening.Outcome
import MediaTags.Proofs.Source.Structure
import MediaTags.Proofs.Matroska.Arrangement
import MediaTags.Proofs.Chapters.EarlyEnds
import MediaTags.Proofs.Matroska.ChosenEdition
import MediaTags.Proofs.Normalize.Twice
import MediaTags.Proofs.Opening.Duration
import MediaTags.Proofs.Opening.BitRate
import MediaTags.Proofs.Opening.Streams
import MediaTags.Proofs.Opening.Artwork
import MediaTags.Proofs.Codec.Seconds
import MediaTags.Proofs.IsoMedia.Fallback
import MediaTags.Proofs.IsoMedia.Checked
import MediaTags.Proofs.IsoMedia.Overflow
import MediaTags.Proofs.Text.LeadingNumber
import MediaTags.Proofs.Text.Search
import MediaTags.Proofs.Normalize.Reporting
import MediaTags.Proofs.Chapters.Settled
import MediaTags.Proofs.Chapters.Dropped
import MediaTags.Proofs.Chapters.Titles
import MediaTags.Proofs.IsoMedia.ChapterList
import MediaTags.Proofs.IsoMedia.Header
import MediaTags.Proofs.Chapters.AlbumTag
import MediaTags.Proofs.Opening.Recognised
import MediaTags.Proofs.Opening.CodecName
import MediaTags.Proofs.Vocabulary.Labels
import MediaTags.Proofs.PictureUrl
import MediaTags.Proofs.Settings.Saved
import MediaTags.Proofs.Matroska.Marker
import MediaTags.Proofs.Matroska.Walk
import MediaTags.Proofs.IsoMedia.Tiling
import MediaTags.Proofs.Text.NumberValue
import MediaTags.Proofs.Timeline.Exact
