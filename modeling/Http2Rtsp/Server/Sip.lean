import Http2Rtsp.Server.State

/-!
# The SIP branch

What `start_mt_server` does with a datagram on its SIP socket. The receive
buffer is not cleared as a whole: behind its first `BUFLEN` bytes it keeps what
an earlier datagram left there.
-/

namespace Http2Rtsp.Server

open Http2Rtsp.Std Http2Rtsp.Message

/-- What the environment adds to the handling of a datagram: its bytes and its sender, and the
descriptor `udp_connected` returns. -/
structure DatagramIo where
  received : List UInt8
  cliaddr : SockAddr
  rtpfd : Except Halt Int

/-- `sip_inbuf` after `bzero(sip_inbuf, BUFLEN)` and `Recvfrom`. -/
def Sip.receive (sip : Sip) (received : List UInt8) : List UInt8 :=
  received ++ (List.replicate bufLen 0 ++ sip.sipInbuf.drop bufLen).drop received.length

/-- The first entry of `clientlist` on which a test succeeds. -/
def Sip.find (sip : Sip) (test : Option SIPClient → Bool) : Option (Fin maxClients) :=
  (List.finRange maxClients).find? fun k => test (sip.clientlist k)

/-- The entry belongs to the call. -/
def ofCall (callid : List UInt8) : Option SIPClient → Bool
  | none => false
  | some client => client.callid = callid

/-- An entry of `clientlist` is changed. -/
def Sip.setEntry (sip : Sip) (k : Fin maxClients) (entry : Option SIPClient) : Sip :=
  { sip with clientlist := Function.update sip.clientlist k entry }

/-- The text of the 200 OK to a message. -/
def okText (msg : SIPMsg) : List UInt8 := (writeSip (createOk msg)).getD []

/-- A received INVITE. The 200 OK is sent before the socket to the client is opened. -/
def ServerState.invite (s : ServerState) (msg : SIPMsg) (io : DatagramIo) : Outcome :=
  if s.sip.nclients < maxClients then
    let ok := Output.okSent (okText msg) (okText msg).length io.cliaddr
    match io.rtpfd with
    | .error reason => ((s.halt reason).1, ok :: (s.halt reason).2)
    | .ok rtpfd =>
        let s := s.openFd rtpfd .udp
        let client : SIPClient :=
          { callid := msg.callid, sockfd := rtpfd, ackrecvd := false, fromHeader := [],
            toHeader := [], cliaddr := ⟨0, 0⟩ }
        match s.sip.find Option.isNone with
        | none => (s, [ok])
        | some k =>
            ({ s with sip := { s.sip.setEntry k (some client) with
                sipmasterfds := fdSet s.sip.sipmasterfds rtpfd
                nclients := s.sip.nclients + 1 } }, [ok])
  else (s, [])

/-- A received ACK. -/
def ServerState.ack (s : ServerState) (msg : SIPMsg) (io : DatagramIo) : Outcome :=
  match s.sip.find (ofCall msg.callid) with
  | none => (s, [])
  | some k =>
      ({ s with sip := s.sip.setEntry k ((s.sip.clientlist k).map fun client =>
          { client with
            ackrecvd := true
            fromHeader := msg.fromHeader
            toHeader := msg.toHeader
            cliaddr := io.cliaddr }) }, [])

/-- The client of a call is removed. -/
def ServerState.removeClient (s : ServerState) (msg : SIPMsg) : ServerState :=
  match s.sip.find (ofCall msg.callid) with
  | none => s
  | some k =>
      match s.sip.clientlist k with
      | none => s
      | some client =>
          { s.close client.sockfd with sip := { s.sip.setEntry k none with
              sipmasterfds := fdClr s.sip.sipmasterfds client.sockfd
              nclients := s.sip.nclients - 1 } }

/-- The dispatch on the type of a parsed message. -/
def ServerState.handleSip (s : ServerState) (msg : SIPMsg) (io : DatagramIo) : Outcome :=
  match msg.type with
  | .invite => s.invite msg io
  | .ack => s.ack msg io
  | .bye => (s.removeClient msg, [.okSent (okText msg) bufLen io.cliaddr])
  | .sipok => (s.removeClient msg, [])

/-- A datagram on the SIP socket. -/
def ServerState.handleDatagram (s : ServerState) (io : DatagramIo) : Outcome :=
  let s := { s with sip := { s.sip with sipInbuf := s.sip.receive io.received } }
  match cString bufSize s.sip.sipInbuf with
  | none => s.halt (.undefined .unterminated)
  | some text =>
      match parsesipmsg text with
      | .error reason => s.halt (.undefined reason)
      | .ok (_, msg) => s.handleSip msg io

/-- The clients which have sent an ACK. -/
def Sip.acknowledged (sip : Sip) : List SIPClient :=
  (List.finRange maxClients).filterMap fun k =>
    (sip.clientlist k).bind fun client => if client.ackrecvd then some client else none

/-- The BYEs to these clients, one after the other, and what ends the sending early.
`create_bye` sets every field which `write_sip` reads. -/
def byes : List SIPClient → List Output × Option Undefined
  | [] => ([], none)
  | client :: rest =>
      match createBye SIPMsg.zero client with
      | .error reason => ([], some reason)
      | .ok bye =>
          let later := byes rest
          (.byeSent ((writeSip bye).getD []) client.cliaddr :: later.1, later.2)

end Http2Rtsp.Server
