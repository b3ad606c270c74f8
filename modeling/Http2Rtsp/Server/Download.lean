import Http2Rtsp.Sockets

/-!
# The download of the media

The variables of the main loop which follow the HTTP response, and what the
`GETSENT` and `RECVTCP` branches do with the bytes their calls of `recv_all`
return. A connection holds the bytes which are still to be received from it.
-/

namespace Http2Rtsp.Server

open Http2Rtsp.Std

/-- `enum mediastates`. -/
inductive MediaState where
  | idle
  | getsent
  | recvtcp
  | stream
deriving DecidableEq

/-- What is open under a descriptor. -/
inductive Endpoint where
  | listener
  | file
  | udp
  /-- The connection of an RTSP client. -/
  | peer
  /-- A connection to the media source, with the rest of its response. -/
  | source (pending : List UInt8)
deriving DecidableEq

/-- A call of `recv` for `size` bytes may return these; no bytes mean that the other end has closed
the connection. -/
def Endpoint.delivers : Endpoint → Nat → List UInt8 → Bool
  | .peer, size, bytes => bytes.length ≤ size
  | .source pending, size, bytes =>
      bytes.isPrefixOf pending && decide (bytes.length ≤ size) &&
        (!bytes.isEmpty || pending.isEmpty)
  | _, _, _ => false

/-- The endpoint once the bytes are consumed. -/
def Endpoint.consume : Endpoint → List UInt8 → Endpoint
  | .source pending, bytes => .source (pending.drop bytes.length)
  | endpoint, _ => endpoint

/-- The variables of a download. `file` is what was written to `videofd`. -/
structure Download where
  mediastate : MediaState
  videosize : Int
  videoleft : Int
  mediaDownloaded : Bool
  file : List UInt8

/-- The length `GETSENT` passes to its second `recv_all`: up to the end of the first blank line in
what it peeked at. There is none when `strstr` returns NULL. -/
def headerLength (peeked : List UInt8) : Option Nat :=
  let text := peeked.takeWhile (· ≠ 0)
  (strstr text crlfcrlf).map fun temp => text.length - temp.length + 4

/-- `GETSENT` from its second `recv_all` on. -/
def Download.getsent (download : Download) (received : List UInt8) : Except Undefined Download :=
  match cString bufSize received with
  | none => .error .unterminated
  | some text =>
      match strstr text (ascii "Content-Length:") with
      | none => .error .nullPointer
      | some temp =>
          let videosize := (scanInt (temp.drop 15)).getD download.videosize
          .ok { download with videosize := videosize, videoleft := videosize, mediastate := .recvtcp }

/-- `RECVTCP`: the received bytes are stored and counted. -/
def Download.recvtcp (download : Download) (received : List UInt8) (writes : List WriteResult) :
    Download :=
  { download with
    file := download.file ++ (writestr writes received).1
    videoleft := download.videoleft - received.length }

end Http2Rtsp.Server
