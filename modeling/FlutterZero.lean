import FlutterZero.Fml.TaskQueues.Ownership
import FlutterZero.Fml.TaskQueues.Dispatch
import FlutterZero.Fml.TaskQueues.WakeUps
import FlutterZero.Fml.RasterThreadMerger.Leases
import FlutterZero.Fml.CommandLine
import FlutterZero.Ui.ChannelBuffers.Delivery
import FlutterZero.Ui.CallbackCache
import FlutterZero.ClientWrapper.StandardCodec.RoundTrip
import FlutterZero.ClientWrapper.StandardCodec.Safety
import FlutterZero.FlutterTools.Daemon.Framing
import FlutterZero.FlutterTools.FileTransfer.Rebuild
import FlutterZero.FlutterTools.MessageParser.Compress
import FlutterZero.FlutterTools.DevFS.HttpWriter
import FlutterZero.FlutterTools.DevFS.AssetSync
import FlutterZero.FlutterTools.HotRunner
import FlutterZero.FlutterTools.HotRunner.Invalidation
import FlutterZero.Ui.ChannelBuffers.ControlMessages
import FlutterZero.FlutterTools.PreviewDetector.Consistency
import FlutterZero.FlutterTools.AssetBundle.Rebuild
import FlutterZero.FlutterTools.BuildSystem.Scheduling
import FlutterZero.FlutterTools.BuildSystem.Cleanup
import FlutterZero.Platform.Android.DartMessenger.Places
import FlutterZero.Platform.Android.DartMessenger.Order
import FlutterZero.Platform.Shell
import FlutterZero.Platform.Linux.TaskRunner.PostingOrder
import FlutterZero.Platform.Windows.TaskRunner.WakeUps
import FlutterZero.FlutterTools.Cache.OneVersion
import FlutterZero.FlutterTools.SwiftPackageManagerMigration
import FlutterZero.FlutterTools.SwiftPackageManagerMigration.Restoring
import FlutterZero.Lib.FirstOfKey
import FlutterZero.LicensesCpp.LicenseChecker
import FlutterZero.LicensesCpp.LicenseChecker.Attribution
import FlutterZero.Fml.AsciiTrie
import FlutterZero.Shell.Base64
import FlutterZero.Shell.Base64.RoundTrip
import FlutterZero.Shell.Base64.SourceLength
import FlutterZero.ClientWrapper.StandardCodec.Envelopes
import FlutterZero.Ui.ChannelBuffers.DiscardWarnings
import FlutterZero.Ui.ChannelBuffers.ThrowingListeners
import FlutterZero.FlutterTools.BuildSystem.Soundness
import FlutterZero.Fml.CommandLine.Lookup
import FlutterZero.FlutterTools.FileTransfer.Rolling
import FlutterZero.FlutterTools.FileTransfer.Overrun
import FlutterZero.FlutterTools.FileTransfer.Upload
import FlutterZero.FlutterTools.BuildSystem.Cycles
import FlutterZero.FlutterTools.BuildSystem.InputSets
import FlutterZero.FlutterTools.BuildSystem.Aggregates
import FlutterZero.Lib.Boundaries
import FlutterZero.FlutterTools.BuildSystem.BuildPrefix
import FlutterZero.Lib.PairPatterns
import FlutterZero.FlutterTools.BuildSystem.Depfile
import FlutterZero.Lib.Chunks
import FlutterZero.FlutterTools.Daemon.Reader
import FlutterZero.FlutterTools.Daemon.Closing
import FlutterZero.FlutterTools.Daemon.Malformed
import FlutterZero.FlutterTools.DebounceDataStream
import FlutterZero.FlutterTools.MessageParser.Quotes
import FlutterZero.FlutterTools.MessageParser.RelaxedBraces
import FlutterZero.Lib.DartLiteral
import FlutterZero.FlutterTools.Localizations.GenerateString
import FlutterZero.FlutterTools.Localizations.GenerateReturnExpr
import FlutterZero.FlutterTools.ProxiedDevice
import FlutterZero.FlutterTools.DevFS.Writes
import FlutterZero.Lib.DepthFirst
import FlutterZero.FlutterTools.PreviewDetector.Errors
import FlutterZero.Platform.Android.DartMessenger.SerialTaskQueue
import FlutterZero.FlutterTools.TaskQueue
import FlutterZero.FlutterTools.AssetBundle.VariantKeys
import FlutterZero.FlutterTools.AssetBundle.HookAssets
import FlutterZero.Lib.AssociationLists
import FlutterZero.Lib.UriPath
import FlutterZero.FlutterTools.MultiRootFileSystem
import FlutterZero.Platform.Common.JsonMethodCodec
import FlutterZero.Lib.Hexadecimal
import FlutterZero.Lib.RapidJson
import FlutterZero.Runtime.ServiceProtocol
import FlutterZero.LicensesCpp.Catalog
import FlutterZero.Platform.Windows.TaskRunner.FailedPosts
import FlutterZero.Platform.Windows.TaskRunner.PostingOrder
import FlutterZero.Lib.Nesting
import FlutterZero.LicensesCpp.DepsParser
import FlutterZero.LicensesCpp.DepsParser.Comments
import FlutterZero.LicensesCpp.DepsParser.Entries
import FlutterZero.Lib.ReplaceAll
import FlutterZero.FlutterTools.Template
import FlutterZero.FlutterTools.Template.FileOrder
import FlutterZero.FlutterTools.Template.Destination
import FlutterZero.Fml.Paths
import FlutterZero.Lib.PrefixCode
import FlutterZero.FlutterTools.DownloadNames
import FlutterZero.Fml.WaitableEvent
import FlutterZero.FlutterTools.ProxyDomain.Connect
