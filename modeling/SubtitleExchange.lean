import SubtitleExchange.Command.Tree
import SubtitleExchange.Main
import SubtitleExchange.Proofs.Block.Agreement
import SubtitleExchange.Proofs.Command.Listing
import SubtitleExchange.Proofs.Conversion
import SubtitleExchange.Proofs.Cue.Presentation
import SubtitleExchange.Proofs.Hex
import SubtitleExchange.Proofs.Log.Filter
import SubtitleExchange.Proofs.Script.Event
import SubtitleExchange.Proofs.Session.DisplayTime
import SubtitleExchange.Proofs.Session.Log
import SubtitleExchange.Proofs.Session.Relevance
import SubtitleExchange.Proofs.Session.Units
import SubtitleExchange.Proofs.Stream.Exhaustion
import SubtitleExchange.Proofs.Stream.Progress
import SubtitleExchange.Proofs.Text.Image
import SubtitleExchange.Proofs.Text.Joining
import SubtitleExchange.Proofs.Text.Reading
import SubtitleExchange.Proofs.Time.Order
import SubtitleExchange.Proofs.Time.Words
import SubtitleExchange.Text.Encoding
