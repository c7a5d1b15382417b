import OfflineChat.Account
import OfflineChat.Cache.Attempt
import OfflineChat.Cache.Edit
import OfflineChat.Cache.Live
import OfflineChat.Cache.Query
import OfflineChat.Cache.Row
import OfflineChat.Cache.Saved
import OfflineChat.Cache.Table
import OfflineChat.Cache.Write
import OfflineChat.Calendar
import OfflineChat.Chat
import OfflineChat.Client.Basic
import OfflineChat.Client.Chats
import OfflineChat.Client.Files
import OfflineChat.CommandLine.Command
import OfflineChat.CommandLine.Grammar
import OfflineChat.CommandLine.Usage
import OfflineChat.Completion
import OfflineChat.Config
import OfflineChat.Desk
import OfflineChat.Dict
import OfflineChat.Failure
import OfflineChat.Files.Disk
import OfflineChat.Files.Path
import OfflineChat.Files.Transfer
import OfflineChat.Http.Exchange
import OfflineChat.Http.MediaType
import OfflineChat.Http.Wire
import OfflineChat.Json.Codec
import OfflineChat.Json.Document
import OfflineChat.Json.Numeral
import OfflineChat.Json.Record
import OfflineChat.Json.Reject
import OfflineChat.Json.Value
import OfflineChat.Main
import OfflineChat.Media
import OfflineChat.Message
import OfflineChat.Number.Binary
import OfflineChat.Number.Decimal
import OfflineChat.Number.Shortest
import OfflineChat.Preferences
import OfflineChat.Program
import OfflineChat.Report.Chats
import OfflineChat.Report.Records
import OfflineChat.Run
import OfflineChat.Server.Api
import OfflineChat.Server.InMemory
import OfflineChat.Server.Scripted
import OfflineChat.Settings
import OfflineChat.Socket.Address
import OfflineChat.Socket.Basic
import OfflineChat.Store.Basic
import OfflineChat.Store.LiveView
import OfflineChat.StreamChunk
import OfflineChat.Text.Case
import OfflineChat.Text.Split
import OfflineChat.Text.Table
import OfflineChat.Text.Utf8
import OfflineChat.Text.Visible
import OfflineChat.Text.Width
import OfflineChat.Thread
import OfflineChat.Url.Address
import OfflineChat.Url.Basic
import OfflineChat.Url.Domain
import OfflineChat.Url.Edit
import OfflineChat.Url.Encoding
import OfflineChat.Url.NameTables
import OfflineChat.Url.Parser
import OfflineChat.Url.Punycode
import OfflineChat.Yaml.Cursor
import OfflineChat.Yaml.Event
import OfflineChat.Yaml.Node
import OfflineChat.Yaml.Reading
import OfflineChat.Yaml.Scalar
import OfflineChat.Yaml.Token
import OfflineChat.Proofs.StoreRuns
import OfflineChat.Proofs.TableUpsert
import OfflineChat.Proofs.WriteAnnouncements
import OfflineChat.Proofs.LiveFreshness
import OfflineChat.Proofs.RefusedWrites
import OfflineChat.Proofs.StaleViews
import OfflineChat.Proofs.CacheIntegrity
import OfflineChat.Proofs.ParentWalk
import OfflineChat.Proofs.LinearThreads
import OfflineChat.Proofs.SendEffect
import OfflineChat.Proofs.LiteralReading
import OfflineChat.Proofs.SnapshotEffect
import OfflineChat.Proofs.RefreshAgreement
import OfflineChat.Proofs.ChatMessages
import OfflineChat.Proofs.SendsInTurn
import OfflineChat.Proofs.SendsInFlight
import OfflineChat.Proofs.SegmentEncoding
import OfflineChat.Proofs.ResourceAddresses
import OfflineChat.Proofs.FailureTraces
import OfflineChat.Proofs.ChatParts
import OfflineChat.Proofs.RepeatedPuts
import OfflineChat.Proofs.RepeatedRefreshes
import OfflineChat.Proofs.RefreshOrder
import OfflineChat.Proofs.DictEntries
import OfflineChat.Proofs.LiveEmissions
import OfflineChat.Proofs.ToggleReconciliation
import OfflineChat.Proofs.WrittenNumerals
import OfflineChat.Proofs.WrittenValues
import OfflineChat.Proofs.CodecSurvival
import OfflineChat.Proofs.RecordSurvival
import OfflineChat.Proofs.OpenRecords
import OfflineChat.Proofs.WireRecords
import OfflineChat.Proofs.ReplyMeaning
import OfflineChat.Proofs.SocketEvents
import OfflineChat.Proofs.PreferenceAgreement
import OfflineChat.Proofs.SessionToken
import OfflineChat.Proofs.WrittenRows
import OfflineChat.Proofs.OctetOrder
import OfflineChat.Proofs.ChatList
import OfflineChat.Proofs.MessageQueries
import OfflineChat.Proofs.TimedReading
import OfflineChat.Proofs.ChatsOverTime
import OfflineChat.Proofs.RefreshesOverTime
import OfflineChat.Proofs.SummaryEffect
import OfflineChat.Proofs.StableSort
import OfflineChat.Proofs.LetterCase
import OfflineChat.Proofs.InsertionOrder
import OfflineChat.Proofs.TitleSearch
import OfflineChat.Proofs.StepWrites
import OfflineChat.Proofs.ChatRemoval
import OfflineChat.Proofs.Rebuilding
import OfflineChat.Proofs.SameContent
import OfflineChat.Proofs.Reopening
import OfflineChat.Proofs.GrowingThreads
import OfflineChat.Proofs.BlankEnds
import OfflineChat.Proofs.CheckedAddresses
import OfflineChat.Proofs.SettingBounds
import OfflineChat.Proofs.StreamedText
import OfflineChat.Proofs.BinaryRounding
import OfflineChat.Proofs.SizeTexts
import OfflineChat.Proofs.FileSizes
