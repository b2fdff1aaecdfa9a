import ContextSnap.Browser.Bridge
import ContextSnap.Browser.NativeMessaging
import ContextSnap.Core.Config
import ContextSnap.Core.Matching
import ContextSnap.Core.Restore
import ContextSnap.Core.SnapshotManager
import ContextSnap.Core.Types
import ContextSnap.Core.Ulid
import ContextSnap.Daemon.Handlers
import ContextSnap.Daemon.Requests
import ContextSnap.Daemon.Workers
import ContextSnap.Hal.Platform
import ContextSnap.Ipc.Client
import ContextSnap.Ipc.Protocol
import ContextSnap.Ipc.Replies
import ContextSnap.Ipc.Server
import ContextSnap.Lib.Calendar
import ContextSnap.Lib.FloatOrder
import ContextSnap.Lib.Fold
import ContextSnap.Lib.Greedy
import ContextSnap.Lib.Incremental
import ContextSnap.Lib.Interleaving
import ContextSnap.Lib.Program
import ContextSnap.Lib.Scan
import ContextSnap.Lib.Sql
import ContextSnap.Lib.SqlRows
import ContextSnap.Lib.Stacking
import ContextSnap.Lib.Trace
import ContextSnap.Privacy.Glob
import ContextSnap.Proof.BrowserTabs
import ContextSnap.Proof.CaptureOptions
import ContextSnap.Proof.CaptureRetention
import ContextSnap.Proof.CaptureRuns
import ContextSnap.Proof.ChangeEvents
import ContextSnap.Proof.ClientCalls
import ContextSnap.Proof.DestructiveRequests
import ContextSnap.Proof.FrameStream
import ContextSnap.Proof.FullTextFallback
import ContextSnap.Proof.IdPrefixes
import ContextSnap.Proof.JsonGrammar
import ContextSnap.Proof.JsonParser
import ContextSnap.Proof.JsonRoundTrip
import ContextSnap.Proof.JsonString
import ContextSnap.Proof.JsonWords
import ContextSnap.Proof.LibraryRuns
import ContextSnap.Proof.LockDiscipline
import ContextSnap.Proof.MessageCodec
import ContextSnap.Proof.MetadataEdits
import ContextSnap.Proof.Migrations
import ContextSnap.Proof.PrivateTabs
import ContextSnap.Proof.RepositoryAtomic
import ContextSnap.Proof.RepositoryOps
import ContextSnap.Proof.RepositoryPrune
import ContextSnap.Proof.RepositoryRetention
import ContextSnap.Proof.RepositoryRows
import ContextSnap.Proof.RequestReplies
import ContextSnap.Proof.RestoreAccounting
import ContextSnap.Proof.RestoreAgreement
import ContextSnap.Proof.RestoreExecution
import ContextSnap.Proof.RestoreGating
import ContextSnap.Proof.RestoreHandles
import ContextSnap.Proof.RestoreMatching
import ContextSnap.Proof.RestorePlan
import ContextSnap.Proof.RestoreSelection
import ContextSnap.Proof.RestoreSelectors
import ContextSnap.Proof.RestoreStacking
import ContextSnap.Proof.ResumedMigrations
import ContextSnap.Proof.SanitizedUrl
import ContextSnap.Proof.SchemaVersions
import ContextSnap.Proof.SearchIndex
import ContextSnap.Proof.Serialization
import ContextSnap.Proof.ServedRequests
import ContextSnap.Proof.ServerFraming
import ContextSnap.Proof.ServerReplies
import ContextSnap.Proof.SessionThreads
import ContextSnap.Proof.SharedConnection
import ContextSnap.Proof.Timestamp
import ContextSnap.Proof.UrlText
import ContextSnap.Proof.WireRecords
import ContextSnap.Storage.Database
import ContextSnap.Storage.Interruptions
import ContextSnap.Storage.Migrations
import ContextSnap.Storage.Replies
import ContextSnap.Storage.Schema
import ContextSnap.Storage.SnapshotRepository
import ContextSnap.Proof.CaptureParams
import ContextSnap.Browser.NativeHost
import ContextSnap.Proof.NativePipe
import ContextSnap.Browser.Extension
import ContextSnap.Proof.TabsMessage
import ContextSnap.Proof.DatabaseKey
import ContextSnap.Proof.ConfigFile
import ContextSnap.Browser.TabInbox
import ContextSnap.Daemon.BrowserHosts
import ContextSnap.Lib.Shares
import ContextSnap.Proof.HostTurns
import ContextSnap.Proof.TabOwnership
import ContextSnap.Proof.TabFreshness
import ContextSnap.Proof.TabCollection
import ContextSnap.Proof.QueuedRestores
import ContextSnap.Proof.RestoreRouting
import ContextSnap.Proof.TabIndices
import ContextSnap.Proof.ExclusionRules
import ContextSnap.Proof.RestoreNarrowing
import ContextSnap.Daemon.ConfigRequests
import ContextSnap.Proof.SetConfig
import ContextSnap.Lib.Sweep
import ContextSnap.Proof.WindowMatching
import ContextSnap.Lib.Wildcard
import ContextSnap.Proof.GlobMatching
import ContextSnap.Ipc.AcceptLoop
import ContextSnap.Proof.WorkerBookkeeping
import ContextSnap.Proof.UrlParts
import ContextSnap.Proof.UnmodifiedUrl
import ContextSnap.Proof.SettledUrl
import ContextSnap.Proof.WrittenUrl
import ContextSnap.Proof.IdempotentUrl
import ContextSnap.Proof.EnforcedPolicy
import ContextSnap.Lib.Spans
import ContextSnap.Lib.Int32Ops
import ContextSnap.Lib.Quotation
import ContextSnap.Lib.LikePatterns
import ContextSnap.Core.Geometry
import ContextSnap.Core.GeometryOps
import ContextSnap.Hal.LinuxProcesses
import ContextSnap.Proof.ClampedFrames
import ContextSnap.Proof.RemappedFrames
import ContextSnap.Proof.TabAssignment
import ContextSnap.Proof.PlacedFrames
import ContextSnap.Proof.OwningMonitor
import ContextSnap.Proof.EquivalentLayouts
import ContextSnap.Proof.RestoreArithmetic
import ContextSnap.Proof.AppIds
import ContextSnap.Proof.LaunchCommands
import ContextSnap.Proof.QueryTexts
import ContextSnap.Proof.InsertedRows
import ContextSnap.Proof.ReloadedSnapshots
import ContextSnap.Lib.Buffer
import ContextSnap.Lib.Lz4
import ContextSnap.Lib.Positional
import ContextSnap.Lib.Rfc3339
import ContextSnap.Lib.Utf8
import ContextSnap.Browser.SessionChromium
import ContextSnap.Browser.SessionFirefox
import ContextSnap.Proof.Ulid
import ContextSnap.Proof.TimestampText
import ContextSnap.Proof.ImportedTimes
import ContextSnap.Proof.Utf8Strings
import ContextSnap.Proof.SnssCommands
import ContextSnap.Proof.PickleReader
import ContextSnap.Proof.SessionWindows
import ContextSnap.Proof.SessionTabIds
import ContextSnap.Proof.FirefoxTabs
import ContextSnap.Proof.Lz4Block
import ContextSnap.Lib.Blocks
import ContextSnap.Lib.Fips180
import ContextSnap.Privacy.Crypto
import ContextSnap.Proof.Sha256
import ContextSnap.Proof.SealedBlob
import ContextSnap.Proof.NormalizedTexts
import ContextSnap.Lib.Alignment
import ContextSnap.Proof.EditDistance
import ContextSnap.Lib.Utf16
import ContextSnap.Proof.Utf16Decoders
import ContextSnap.Proof.SubscribedEvents
import ContextSnap.Proof.JsonPaths
import ContextSnap.Proof.SanitizedText
import ContextSnap.Proof.StoredUrls
import ContextSnap.Cli.CommandLine
import ContextSnap.Core.Logging
import ContextSnap.Lib.Generations
import ContextSnap.Lib.Logfmt
import ContextSnap.Proof.CommandLine
import ContextSnap.Proof.LogFiles
import ContextSnap.Hal.NullPlatform
import ContextSnap.Proof.HeadlessDesktop
import ContextSnap.Proof.HeadlessRestore
import ContextSnap.Proof.HeadlessRoundTrip
import ContextSnap.Proof.HeadlessStacking
