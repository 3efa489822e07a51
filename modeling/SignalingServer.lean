import SignalingServer.Lib.LittleEndian
import SignalingServer.Lib.Lts
import SignalingServer.UserAgent.Registration
import SignalingServer.UserAgent.Keepalive
import SignalingServer.UserAgent.NotifyTimer
import SignalingServer.Lib.Decimal
import SignalingServer.Tools.TypeConversion
import SignalingServer.IDManager
import SignalingServer.DeviceMng.JsonDevice
import SignalingServer.DeviceDb.DbManager
import SignalingServer.DeviceMng.DeviceMng
import SignalingServer.Media.MediaMng
import SignalingServer.UserAgent.GB28181Msg
import SignalingServer.UserAgent.UaMessageMgr
import SignalingServer.UserAgent.GbAddressing
import SignalingServer.RtpPortManager
import SignalingServer.RtpPortPairs
import SignalingServer.Lib.Threads
import SignalingServer.Tools.SelfLog
import SignalingServer.Tools.ThreadPool
import SignalingServer.Lib.SqlText
import SignalingServer.DeviceDb.SqlStatements
import SignalingServer.UserAgent.UaClientCall
import SignalingServer.Lib.Table
import SignalingServer.UserAgent.RtpPorts
import SignalingServer.StreamViewers
import SignalingServer.Media.StreamMap
import SignalingServer.Media.ClosingStream
import SignalingServer.Lib.Ring
import SignalingServer.Tools.UnLockQueue
import SignalingServer.Media.LiveFrames
import SignalingServer.Media.FrameBytes
import SignalingServer.Media.PlaybackFrames
import SignalingServer.UserAgent.InviteOutcome
import SignalingServer.XmlMsgAnalysis
import SignalingServer.UserAgent.XmlDispatch
import SignalingServer.UserAgent.Catalog
import SignalingServer.UserAgent.RecordInfo
import SignalingServer.UserAgent.SubscriptionRegistry
import SignalingServer.Lib.TreeSearch
import SignalingServer.DeviceMng.VirtualOrganization
import SignalingServer.UserAgent.CatalogResponse
import SignalingServer.UserAgent.ChannelStatus
import SignalingServer.Lib.Collect
import SignalingServer.UserAgent.CctvNodes
import SignalingServer.UserAgent.CctvMoves
import SignalingServer.UserAgent.CctvResync
import SignalingServer.Media.JsonStream
import SignalingServer.UserAgent.YxDeviceInfo
import SignalingServer.CreateDevCode
import SignalingServer.DeviceDb.AddDevice
import SignalingServer.DeviceDb.ChannelUpdate
import SignalingServer.DeviceMng.NvrSessions
import SignalingServer.UserAgent.PtzEncoding
import SignalingServer.Ws.WsViewers
import SignalingServer.Lib.Fifo
import SignalingServer.Tools.LineBufQueue
import SignalingServer.Media.PlaybackTimes
import SignalingServer.Lib.Borders
import SignalingServer.Media.HeaderSync
import SignalingServer.Media.StreamReads
import SignalingServer.Media.FrameRates
import SignalingServer.UserAgent.HeartbeatRounds
import SignalingServer.DeviceMng.RecordSearch
import SignalingServer.XmlMsgTexts
import SignalingServer.Media.ReaderQueue
import SignalingServer.Lib.LowerBound
import SignalingServer.Media.FileReader
import SignalingServer.Media.ReaderPosition
import SignalingServer.Media.ReaderInput
import SignalingServer.Tools.KmpLoops
import SignalingServer.Tools.KmpNext
import SignalingServer.Media.PoolTimeline
import SignalingServer.Media.AccessUnits
import SignalingServer.Media.ParameterSets
import SignalingServer.Media.ReaderSets
import SignalingServer.Media.NalReads
import SignalingServer.Lib.Base64
import SignalingServer.Tools.Base64
import SignalingServer.Lib.LeadBytes
import SignalingServer.Tools.StrUtf8
import SignalingServer.Lib.Utf8
import SignalingServer.Tools.CheckUtf8
import SignalingServer.DeviceMng.DeviceRemoval
import SignalingServer.Tools.InitFile
import SignalingServer.Lib.Pacing
import SignalingServer.Media.PsFileSource
import SignalingServer.Ws.FrameMessages
import SignalingServer.Lib.Directory
import SignalingServer.Tools.LogFiles
import SignalingServer.Lib.Splitting
import SignalingServer.Tools.StringSplit
import SignalingServer.UserAgent.CreateSsrc
import SignalingServer.Lib.Until
import SignalingServer.Handles
import SignalingServer.UserAgent.PtzSafety
import SignalingServer.Lib.Scanning
import SignalingServer.Tinyxml2.StrPair
import SignalingServer.Tinyxml2.PrintString
import SignalingServer.Tinyxml2.XMLDocument
import SignalingServer.Tinyxml2.Grammar
import SignalingServer.Tinyxml2.ParseDeep
import SignalingServer.Tinyxml2.XMLPrinter
import SignalingServer.Tinyxml2.RoundTrip
import SignalingServer.Tinyxml2.WellFormed
import SignalingServer.Tinyxml2.Reader
import SignalingServer.MsgContentXml
import SignalingServer.MsgContentTexts
import SignalingServer.MsgContentAnalysis
import SignalingServer.MsgContentAnswers
import SignalingServer.UserAgent.PtzOverXml
import SignalingServer.DeviceDb.GbIds
import SignalingServer.Lib.Pattern
import SignalingServer.UserAgent.PlaybackInfo
import SignalingServer.Plugin.Base64
import SignalingServer.Lib.Requests
import SignalingServer.UserAgent.PageMessages
