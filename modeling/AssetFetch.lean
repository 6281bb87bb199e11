import AssetFetch.App
import AssetFetch.Main
import AssetFetch.Proofs.FileTree
import AssetFetch.Proofs.TemporaryPath
import AssetFetch.Proofs.Program
import AssetFetch.Proofs.Surroundings
import AssetFetch.Proofs.Draft
import AssetFetch.Proofs.Edit
import AssetFetch.Proofs.Download.Fetch
import AssetFetch.Proofs.Download.Body
import AssetFetch.Proofs.Printing
import AssetFetch.Proofs.Progress
import AssetFetch.Proofs.ContentLength
import AssetFetch.Proofs.Download.Success
import AssetFetch.Proofs.Download.Whole
import AssetFetch.Proofs.Download.Atomic
import AssetFetch.Proofs.Download.Delivery
import AssetFetch.Proofs.Download.Unpacking
import AssetFetch.Proofs.World
import AssetFetch.Proofs.Download.Orderly
import AssetFetch.Proofs.Download.Settling
import AssetFetch.Proofs.Download.Crowd
import AssetFetch.Proofs.Json.Reading
import AssetFetch.Proofs.Fetching
import AssetFetch.Proofs.Settings.Runs
import AssetFetch.Proofs.Confined
import AssetFetch.Proofs.Preparing
import AssetFetch.Proofs.Settings.Failing
import AssetFetch.Proofs.Settings.Owned
import AssetFetch.Proofs.Settings.Cache
import AssetFetch.Proofs.Local
import AssetFetch.Proofs.Alike
import AssetFetch.Proofs.Secrecy
import AssetFetch.Proofs.Replies
import AssetFetch.Proofs.Attempts
import AssetFetch.Proofs.Bare
import AssetFetch.Proofs.Download.Landing
import AssetFetch.Proofs.Order
import AssetFetch.Proofs.Begun
import AssetFetch.Proofs.Ending
import AssetFetch.Proofs.Redaction.Soundness
import AssetFetch.Proofs.Statuses
import AssetFetch.Proofs.Percents
import AssetFetch.Proofs.Wishes
import AssetFetch.Proofs.Download.Cancelling
import AssetFetch.Proofs.SideBySide
import AssetFetch.Proofs.Download.Chunking
import AssetFetch.Proofs.Gzip.Stored
import AssetFetch.Proofs.Download.Restoring
import AssetFetch.Proofs.Console
import AssetFetch.Proofs.Mishaps
import AssetFetch.Proofs.Settings.Leftover
import AssetFetch.Proofs.Settings.Loading
import AssetFetch.Proofs.Selection
import AssetFetch.Proofs.Settings.Parsing
import AssetFetch.Proofs.Json.Floats
import AssetFetch.Proofs.Json.Line
import AssetFetch.Proofs.Descriptions
import AssetFetch.Proofs.Timestamp
import AssetFetch.Proofs.TokenStore
import AssetFetch.Proofs.Patience
import AssetFetch.Proofs.Redaction.Values
