import Http2Rtsp.Message.Rtsp
import Http2Rtsp.Sockets

/-!
# Requests and replies

What the server writes: the GET request for the media and the replies to the
RTSP requests. `rand()` and the date are arguments.
-/

namespace Http2Rtsp.Message

open Http2Rtsp.Std

/-! ## The GET request -/

/-- `tolower` in the C locale. -/
def toLower (byte : UInt8) : UInt8 := if 65 ≤ byte ∧ byte ≤ 90 then byte + 32 else byte

/-- `strchr`. -/
def strchr (text : List UInt8) (char : UInt8) : Option (List UInt8) := strstr text [char]

/-- The path part of a URL, a suffix of it: from the third `/` on behind `http://`, else from the
first. -/
def urlPath (url : List UInt8) : Option (List UInt8) :=
  if (url.take 7).map toLower = ascii "http://" then do
    let first ← strchr url 47
    let second ← strchr (first.drop 1) 47
    strchr (second.drop 1) 47
  else strchr url 47

/-- The URL from its host part on. -/
def urlHost (url : List UInt8) : List UInt8 :=
  if (url.take 7).map toLower = ascii "http://" then url.drop 7 else url

/-- `parse_url`: the host and the path, each cut to the size of its array. -/
def parseUrl (url : List UInt8) : Except Undefined (List UInt8 × List UInt8) :=
  match urlPath url with
  | none => .error .nullPointer
  | some path =>
      let host := urlHost url
      .ok ((host.take (host.length - path.length)).take (urlSize - 1), path.take (urlSize - 1))

/-- `http_get`. -/
def httpGet (url : List UInt8) : Except Undefined (List UInt8) := do
  let (host, path) ← parseUrl url
  .ok ((ascii "GET " ++ path ++ ascii " HTTP/1.1\r\nUser-Agent: http2rtsp\r\nHost: " ++ host ++
    ascii "\r\nAccept: */*\r\n\r\n").take (bufSize - 1))

/-! ## The client -/

/-- `enum clientstates`. -/
inductive ClientState where
  | noclient
  | cliconnected
  | sdpsent
  | setupcomplete
  | streaming
deriving DecidableEq

/-- `Client`. -/
structure Client where
  state : ClientState
  rtspfd : Int
  session : Int
  cseq : Int
  serverRtpAudioPort : Nat
  serverRtpVideoPort : Nat
  serverRtcpAudioPort : Nat
  serverRtcpVideoPort : Nat
  setupsreceived : Nat
  videofds : Int × Int
  audiofds : Int × Int

/-- `init_client`. -/
def initClient : Client where
  state := .noclient
  rtspfd := -1
  session := 0
  cseq := 0
  setupsreceived := 0
  serverRtpVideoPort := 50508
  serverRtcpVideoPort := 50509
  serverRtpAudioPort := 50510
  serverRtcpAudioPort := 50511
  videofds := (-1, -1)
  audiofds := (-1, -1)

/-! ## Replies -/

/-- `rtsp_options`. The last line end of the reply is overwritten. -/
def rtspOptions (msg : RTSPMsg) (client : Client) : Client × List UInt8 :=
  let written := writeRtsp msg
  ({ client with cseq := toInt32 (msg.cseq + 1) },
    written.take (written.length - 2) ++ ascii "Public: DESCRIBE, SETUP, PLAY, TEARDOWN\r\n\r\n")

/-- The session description. -/
def sdp : List UInt8 :=
  ascii "v=0\r\no=testi\r\ns=mpeg4video\r\nt=0 0\r\na=recvonly\r\n" ++
    ascii "m=audio 40408 RTP/AVP 8\r\nm=video 40404 RTP/AVP 96\r\n" ++
    ascii "a=rtpmap:96 H264/90000\r\na=fmtp:96 packetization-mode=1\r\n"

/-- `rtsp_describe`. -/
def rtspDescribe (client : Client) (date : List UInt8) : Client × List UInt8 :=
  ({ client with cseq := toInt32 (client.cseq + 1) },
    writeRtsp { RTSPMsg.zero with
      fields := fCseq ||| fDate ||| fConttype ||| fContlen ||| fData
      cseq := client.cseq
      date := date
      contenttype := ascii "application/sdp"
      data := sdp
      contentlen := sdp.length })

/-- `rtsp_setup`. -/
def rtspSetup (msg : RTSPMsg) (client : Client) (rand : Nat) (rtp rtcp : Nat) :
    Except Undefined (Client × List UInt8) :=
  let session : Int := rand % 1000000
  let transport :=
    msg.transport ++ ascii ";server_port=" ++ decimal rtp ++ ascii "-" ++ decimal rtcp
  if transport.length < fieldLen then
    .ok ({ client with session := session },
      writeRtsp { msg with
        session := session
        fields := msg.fields ||| fSession
        transport := transport })
  else .error .overflow

/-- `rtsp_play`. -/
def rtspPlay (msg : RTSPMsg) (date : List UInt8) : List UInt8 :=
  writeRtsp { msg with date := date, fields := (msg.fields ||| fDate) ^^^ fSession }

/-- `rtsp_teardown`. -/
def rtspTeardown (msg : RTSPMsg) : List UInt8 :=
  writeRtsp { msg with type := .ok, fields := fSession ||| fCseq }

end Http2Rtsp.Message
