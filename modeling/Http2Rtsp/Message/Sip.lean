import Http2Rtsp.Message.Rtsp

/-!
# SIP messages

`SIPMsg` with the parser and the writers of `sipfunctions.c`, in the same
representation as RTSP messages.
-/

namespace Http2Rtsp.Message

open Http2Rtsp.Std

/-- `enum sipmsgtypes`. -/
inductive SipMsgType where
  | invite
  | sipok
  | ack
  | bye
deriving DecidableEq

/-! `enum sipfields`. -/

def sipType : BitVec 32 := 0x1
def sipVia : BitVec 32 := 0x2
def sipFrom : BitVec 32 := 0x4
def sipTo : BitVec 32 := 0x8
def sipCseq : BitVec 32 := 0x20
def sipCallid : BitVec 32 := 0x40
def sipContentlen : BitVec 32 := 0x80
def sipContents : BitVec 32 := 0x100
def sipClirtpport : BitVec 32 := 0x200
/-- Both bits of the two fields above. -/
def sipContenttype : BitVec 32 := 0x300

/-- `SIPMsg`. -/
structure SIPMsg where
  fields : BitVec 32
  type : SipMsgType
  toHeader : List UInt8
  fromHeader : List UInt8
  clirtpport : List UInt8
  via : List UInt8
  callid : List UInt8
  cseq : List UInt8
  contentlen : Int
  contenttype : List UInt8
  contents : List UInt8

/-- The message after `memset`. Its type is the enumerator 0. -/
def SIPMsg.zero : SIPMsg where
  fields := 0
  type := .invite
  toHeader := []
  fromHeader := []
  clirtpport := []
  via := []
  callid := []
  cseq := []
  contentlen := 0
  contenttype := []
  contents := []

/-- Some bit of the field is set in `fields`. -/
def SIPMsg.has (msg : SIPMsg) (field : BitVec 32) : Bool := msg.fields &&& field ≠ 0

/-- The address of a SIP client. -/
structure SockAddr where
  host : Nat
  port : Nat
deriving DecidableEq

/-- `SIPClient`. -/
structure SIPClient where
  callid : List UInt8
  sockfd : Int
  ackrecvd : Bool
  fromHeader : List UInt8
  toHeader : List UInt8
  cliaddr : SockAddr

/-! ## Parsing -/

/-- The type a message begins with. -/
def sipMessageType (temp : List UInt8) : Option SipMsgType :=
  if startsWith (ascii "INVITE") temp then some .invite
  else if startsWith (ascii "ACK") temp then some .ack
  else if startsWith (ascii "BYE") temp then some .bye
  else if startsWith (ascii "SIP/2.0 200 OK") temp then some .sipok
  else none

/-- White space and `%[^\r]`. -/
def scanToReturn (text : List UInt8) : Option (List UInt8) :=
  scanSet (fun byte => byte ≠ 13) (skipSpace text)

/-- One line of `parsesipmsg`. Of `To: ` only three characters are compared. -/
def sipHeader (msg : SIPMsg) (temp : List UInt8) : Except Undefined SIPMsg :=
  if startsWith (ascii "From: ") temp then do
    let fromHeader ← storeString fieldLen msg.fromHeader (scanToReturn (temp.drop 6))
    .ok { msg with fromHeader := fromHeader, fields := msg.fields ||| sipFrom }
  else if startsWith (ascii "Via: ") temp then do
    let via ← storeString fieldLen msg.via (scanToReturn (temp.drop 5))
    .ok { msg with via := via, fields := msg.fields ||| sipVia }
  else if startsWith (ascii "To:") temp then do
    let toHeader ← storeString fieldLen msg.toHeader (scanToReturn (temp.drop 3))
    .ok { msg with toHeader := toHeader, fields := msg.fields ||| sipTo }
  else if startsWith (ascii "CSeq: ") temp then do
    let cseq ← storeString fieldLen msg.cseq (scanToReturn (temp.drop 6))
    .ok { msg with cseq := cseq, fields := msg.fields ||| sipCseq }
  else if startsWith (ascii "Call-ID: ") temp then do
    let callid ← storeString fieldLen msg.callid (scanToReturn (temp.drop 9))
    .ok { msg with callid := callid, fields := msg.fields ||| sipCallid }
  else if startsWith (ascii "Content-Length: ") temp then
    .ok { msg with
      contentlen := (scanInt (temp.drop 16)).getD msg.contentlen
      fields := msg.fields ||| sipContentlen }
  else if startsWith (ascii "Content-Type: ") temp then do
    let contenttype ← storeString fieldLen msg.contenttype (scanWord (temp.drop 14))
    .ok { msg with contenttype := contenttype, fields := msg.fields ||| sipContenttype }
  else .ok msg

/-- The loop of `parsesipmsg`: `none` when the type is not supported, else the message and the
place behind its header lines. -/
def sipLines (stop : List UInt8) : Nat → List UInt8 → Bool → SIPMsg →
    Except Undefined (Option (SIPMsg × List UInt8))
  | 0, temp, _, msg => .ok (some (msg, temp))
  | steps + 1, temp, typeflag, msg =>
      if stop.length < temp.length then
        let typed := if typeflag then some msg else
          (sipMessageType temp).map fun type =>
            { msg with type := type, fields := msg.fields ||| sipType }
        match typed with
        | none => .ok none
        | some msg => do
            let msg ← sipHeader msg temp
            match strstr temp crlf with
            | none => .error .nullPointer
            | some next => sipLines stop steps (next.drop 2) true msg
      else .ok (some (msg, temp))

/-- The end of `parsesipmsg`: the RTP port of the client, from a session description. -/
def sipPort (msg : SIPMsg) (temp : List UInt8) : Except Undefined SIPMsg :=
  if 0 < msg.contentlen ∧ msg.contenttype = ascii "application/sdp" then
    match strstr temp (ascii "m=audio") with
    | none => .error .nullPointer
    | some temp => do
        let clirtpport ← storeString portLen msg.clirtpport (scanWord (temp.drop 7))
        .ok { msg with clirtpport := clirtpport, fields := msg.fields ||| sipClirtpport }
  else .ok msg

/-- `parsesipmsg`: the value returned and the message. -/
def parsesipmsg (buffer : List UInt8) : Except Undefined (Int × SIPMsg) :=
  match strstr buffer crlfcrlf with
  | none => .ok (0, SIPMsg.zero)
  | some stop => do
      match ← sipLines stop buffer.length buffer false SIPMsg.zero with
      | none => .ok (-1, SIPMsg.zero)
      | some (msg, temp) => do
          let msg ← sipPort msg temp
          .ok (0, msg)

/-- A datagram without a header block leaves the message zeroed. -/
theorem parsesipmsg_of_no_block {buffer : List UInt8} (absent : ¬ crlfcrlf <:+: buffer) :
    parsesipmsg buffer = .ok (0, SIPMsg.zero) := by
  rw [parsesipmsg, strstr_eq_none_iff.mpr absent]

/-- So does one which begins with no supported type. -/
theorem parsesipmsg_of_unsupported {buffer : List UInt8}
    (unsupported : sipMessageType buffer = none) :
    ∃ result, parsesipmsg buffer = .ok (result, SIPMsg.zero) := by
  unfold parsesipmsg
  split
  · exact ⟨0, rfl⟩
  · rename_i stop _
    have noPort : sipPort SIPMsg.zero buffer = .ok SIPMsg.zero := by simp [sipPort, SIPMsg.zero]
    cases steps : buffer.length with
    | zero => exact ⟨0, by simp [sipLines, noPort, bind, Except.bind]⟩
    | succ steps' =>
        by_cases inside : stop.length < buffer.length
        · rw [steps] at inside
          exact ⟨-1, by simp [sipLines, steps, inside, unsupported, bind, Except.bind]⟩
        · rw [steps] at inside
          exact ⟨0, by simp [sipLines, steps, inside, noPort, bind, Except.bind]⟩

/-! ## Writing -/

/-- The session description in a 200 OK. -/
def sipSdp : List UInt8 :=
  ascii "v=0\r\no=kaisa 123456 654321 IN IP4 127.0.0.1\r\ns=SIP server\r\n" ++
    ascii "c=IN IP4 127.0.0.1\r\nt=0 0\r\nm=audio 47522 RTP/AVP 8\r\na=rtpmap:8 PCMA/8000/1\r\n"

/-- `create_ok`. -/
def createOk (msg : SIPMsg) : SIPMsg :=
  let ok := { SIPMsg.zero with
    type := .sipok
    via := msg.via
    toHeader := msg.toHeader
    fromHeader := msg.fromHeader
    callid := msg.callid
    cseq := msg.cseq }
  let ok := if msg.type = .invite then { ok with
      contenttype := msg.contenttype
      contents := sipSdp
      contentlen := sipSdp.length
      fields := sipContents ||| sipContenttype }
    else ok
  { ok with fields := ok.fields ||| (sipType ||| sipVia ||| sipFrom ||| sipTo ||| sipContentlen |||
      sipCallid ||| sipCseq) }

/-- `create_bye`. Only the first eight bytes of the message are cleared. -/
def createBye (bye : SIPMsg) (client : SIPClient) : Except Undefined SIPMsg :=
  let via := ascii "SIP/2.0/UDP " ++ client.fromHeader ++ ascii ";rport;branch=z9hG4bK12345"
  if via.length < fieldLen then
    .ok { bye with
      fields := 0
      type := .bye
      fromHeader := client.toHeader
      toHeader := client.fromHeader
      callid := client.callid
      cseq := ascii "20 BYE"
      contentlen := 0
      via := via }
  else .error .overflow

/-- `write_sip`, for the two types it supports. -/
def writeSip (msg : SIPMsg) : Option (List UInt8) :=
  let start := match msg.type with
    | .sipok => some (ascii "SIP/2.0 200 OK\r\n")
    | .bye => some (ascii "BYE sip:kaisa@localhost SIP/2.0\r\n")
    | _ => none
  start.map fun start => start ++
    headerLine "Via: " msg.via ++ headerLine "From: " msg.fromHeader ++ headerLine "To: " msg.toHeader ++
    headerLine "Call-ID: " msg.callid ++ headerLine "CSeq: " msg.cseq ++
    headerLine "Contact: " msg.toHeader ++ ascii "Max-Forwards: 70\r\n" ++
    (if msg.has sipContenttype then headerLine "Content-Type: " msg.contenttype else []) ++
    (if msg.has sipContentlen then headerLine "Content-Length: " (decimal msg.contentlen) else []) ++
    crlf ++
    (if msg.has sipContentlen ∧ 0 < msg.contentlen then msg.contents ++ crlf else [])

end Http2Rtsp.Message
