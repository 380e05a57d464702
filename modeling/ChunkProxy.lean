import ChunkProxy.Text.Blank
import ChunkProxy.Text.Decimal
import ChunkProxy.Bytes.Utf8
import ChunkProxy.Bytes.Base64
import ChunkProxy.Digest.Md5
import ChunkProxy.Url.Percent
import ChunkProxy.Url.Basic
import ChunkProxy.Url.Punycode
import ChunkProxy.Url.Idna
import ChunkProxy.Url.Host
import ChunkProxy.Url.Parse
import ChunkProxy.Fault
import ChunkProxy.Key.Normalize
import ChunkProxy.Key.Shard
import ChunkProxy.Key.Memo
import ChunkProxy.Error
import ChunkProxy.Range.Basic
import ChunkProxy.Range.Header
import ChunkProxy.Chunk.Plan
import ChunkProxy.Fs.Path
import ChunkProxy.Http.Date
import ChunkProxy.Http.Header
import ChunkProxy.Http.Mime
import ChunkProxy.Fs.Node
import ChunkProxy.Response.Plan
import ChunkProxy.Response.Reply
import ChunkProxy.Http.Uri
import ChunkProxy.Handler.Target
import ChunkProxy.Cache.Key
import ChunkProxy.Cache.Disk
import ChunkProxy.Cache.Clock
import ChunkProxy.Cache.Memory
import ChunkProxy.Cache.Tiered
import ChunkProxy.Cache.Session
import ChunkProxy.Registry
import ChunkProxy.Retry.Pacer
import ChunkProxy.Number.Binary64
import ChunkProxy.Metrics.Counters
import ChunkProxy.Metrics.Exposition
import ChunkProxy.Yaml.Scanner
import ChunkProxy.Yaml.Parser
import ChunkProxy.Yaml.Scalar
import ChunkProxy.Text.Quote
import ChunkProxy.Net.SocketAddr
import ChunkProxy.Config.Basic
import ChunkProxy.Config.Load
import ChunkProxy.Remote.Basic
import ChunkProxy.Remote.Table
import ChunkProxy.Remote.Link
import ChunkProxy.Vfs.Basic
import ChunkProxy.Vfs.Session
import ChunkProxy.Handler.Serve
import ChunkProxy.Handler.Session
import ChunkProxy.Remote.Session
import ChunkProxy.Net.Bind
import ChunkProxy.Listener.Route
import ChunkProxy.Listener.Client
import ChunkProxy.Launch.LogFilter
import ChunkProxy.Launch.Run
import ChunkProxy.Main
import ChunkProxy.Proofs.RegistryHistory
import ChunkProxy.Proofs.PacerCall
import ChunkProxy.Proofs.ChunkCover
import ChunkProxy.Proofs.CacheContent
import ChunkProxy.Proofs.ChunkFetch
import ChunkProxy.Proofs.ReadContent
import ChunkProxy.Proofs.ContentAnswer
import ChunkProxy.Proofs.MemoInterleaving
import ChunkProxy.Proofs.MemoryTier
import ChunkProxy.Proofs.ViewFrame
import ChunkProxy.Proofs.ShardLeaf
import ChunkProxy.Proofs.StatMemo
import ChunkProxy.Proofs.StatRegistered
import ChunkProxy.Proofs.AdmissionHistory
import ChunkProxy.Proofs.ChunkWalk
import ChunkProxy.Proofs.ChunkLayout
import ChunkProxy.Proofs.RangeHeader
import ChunkProxy.Proofs.ContentPlanRules
import ChunkProxy.Proofs.PacerSpacing
import ChunkProxy.Proofs.WriterBooks
import ChunkProxy.Proofs.ChunkFileRoundTrip
import ChunkProxy.Proofs.LatestStore
import ChunkProxy.Proofs.WriterLedger
import ChunkProxy.Proofs.ShardDirectories
import ChunkProxy.Proofs.ChunkPaths
import ChunkProxy.Proofs.CacheFaults
import ChunkProxy.Proofs.RangeTexts
import ChunkProxy.Proofs.MetadataProbe
import ChunkProxy.Proofs.DirectoryPaths
import ChunkProxy.Proofs.DirectoryListing
import ChunkProxy.Proofs.HostText
import ChunkProxy.Proofs.UrlReading
import ChunkProxy.Proofs.UrlText
import ChunkProxy.Proofs.KeyNormalForms
import ChunkProxy.Proofs.StrictUtf8
import ChunkProxy.Proofs.Base64Dialects
import ChunkProxy.Proofs.RequestRefusal
import ChunkProxy.Proofs.RelativeKeys
import ChunkProxy.Proofs.HeaderReplay
import ChunkProxy.Proofs.ShardShape
import ChunkProxy.Proofs.ChunkBounds
