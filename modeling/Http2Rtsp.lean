import Http2Rtsp.Semantics.Machine
import Http2Rtsp.Std.Bytes
import Http2Rtsp.Sockets
import Http2Rtsp.Rtp.SendFrame
import Http2Rtsp.Rtp.Depacketise
import Http2Rtsp.Std.Consecutive
import Http2Rtsp.Rtp.Numbering
import Http2Rtsp.Std.ScanInsert
import Http2Rtsp.Std.Linked
import Http2Rtsp.Pacing.Timeval
import Http2Rtsp.Pacing.Queue
import Http2Rtsp.Pacing.Order
import Http2Rtsp.Message.Rtsp
import Http2Rtsp.Message.Replies
import Http2Rtsp.Message.Sip
import Http2Rtsp.Server.Download
import Http2Rtsp.Server.Response
import Http2Rtsp.Server.State
import Http2Rtsp.Server.Sip
import Http2Rtsp.Server.Step
import Http2Rtsp.Server.Behaviour
import Http2Rtsp.Server.VoidRequests
import Http2Rtsp.Server.Threads
import Http2Rtsp.Server.OneFiller
import Http2Rtsp.Server.Teardown
import Http2Rtsp.Server.Queueing
import Http2Rtsp.Server.Stall
import Http2Rtsp.Server.Datagrams
import Http2Rtsp.Server.Session
import Http2Rtsp.Server.Intake
import Http2Rtsp.Server.OneCopy
import Http2Rtsp.Server.VideoNumbers
import Http2Rtsp.Server.SipTable
import Http2Rtsp.Server.SipCalls
import Http2Rtsp.Server.MediaSockets
import Http2Rtsp.Server.SipAudio
import Http2Rtsp.Server.LockDiscipline
import Http2Rtsp.Server.Cancellation
import Http2Rtsp.Server.Routing
import Http2Rtsp.Std.Lines
import Http2Rtsp.Message.Headers
import Http2Rtsp.Message.Answers
import Http2Rtsp.Message.Writer
import Http2Rtsp.Message.Consistency
import Http2Rtsp.Server.Answers
import Http2Rtsp.Server.Cseq
import Http2Rtsp.Server.SessionId
import Http2Rtsp.Server.Segmentation
import Http2Rtsp.Rtp.Framing
import Http2Rtsp.Message.SipHeaders
import Http2Rtsp.Message.SipReplies
import Http2Rtsp.Server.SipLengths
import Http2Rtsp.Message.SipRoundTrip
import Http2Rtsp.Message.RoundTrip
import Http2Rtsp.Pacing.Representation
import Http2Rtsp.Server.SipHeap
import Http2Rtsp.Server.ClientRecord
import Http2Rtsp.Server.SetupSockets
import Http2Rtsp.Server.SetupCount
import Http2Rtsp.Pacing.EndOfStream
import Http2Rtsp.Pacing.Waits
import Http2Rtsp.Server.Timeouts
import Http2Rtsp.Message.SipMemory
import Http2Rtsp.Rtp.Bounds
import Http2Rtsp.Std.Readings
import Http2Rtsp.Message.RequestSafety
import Http2Rtsp.Message.RequestReference
import Http2Rtsp.Message.SipReference
import Http2Rtsp.Pacing.EqualTimes
import Http2Rtsp.Server.Dispatch
import Http2Rtsp.Server.FailedAccept
import Http2Rtsp.Message.HeaderLoops
import Http2Rtsp.Message.Url
import Http2Rtsp.Sockets.ShortWrites
import Http2Rtsp.Semantics.Refinement
import Http2Rtsp.Server.FillQueue
import Http2Rtsp.Server.QueueBound
import Http2Rtsp.Sockets.UdpServer
import Http2Rtsp.Message.SipBye
import Http2Rtsp.Server.Calls
import Http2Rtsp.Std.Marked
import Http2Rtsp.Rtp.Receiver
import Http2Rtsp.Semantics.Flow
import Http2Rtsp.Server.Playback
import Http2Rtsp.Server.Stream
import Http2Rtsp.Server.Watched
import Http2Rtsp.Server.MovieTheatre
import Http2Rtsp.Server.QueueMemory
import Http2Rtsp.Server.Log
import Http2Rtsp.Server.Connecting
