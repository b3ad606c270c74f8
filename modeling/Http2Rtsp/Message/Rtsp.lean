import Http2Rtsp.Std.Bytes

/-!
# RTSP messages

`RTSPMsg` and its parser and writer of `httpmsg.c`. The parser walks over a C
string; a suffix of the string stands for the pointer to it. A `char` array of a
message is represented by the string it holds.
-/

namespace Http2Rtsp.Message

open Http2Rtsp.Std

/-- `URLSIZE`. -/
def urlSize : Nat := 500

/-- `FIELDLEN`. -/
def fieldLen : Nat := 100

/-- `PORTLEN`. -/
def portLen : Nat := 10

/-- `enum rtspmsgtypes`. -/
inductive RtspMsgType where
  | options
  | describe
  | setup
  | play
  | teardown
  | ok
deriving DecidableEq

/-! `enum rtspfields`. -/

def fType : BitVec 32 := 0x1
def fCseq : BitVec 32 := 0x2
def fSession : BitVec 32 := 0x4
def fContlen : BitVec 32 := 0x8
def fConttype : BitVec 32 := 0x10
def fTransport : BitVec 32 := 0x20
def fRange : BitVec 32 := 0x40
def fDate : BitVec 32 := 0x80
def fData : BitVec 32 := 0x100

/-- `RTSPMsg`. -/
structure RTSPMsg where
  fields : BitVec 32
  type : RtspMsgType
  cseq : Int
  session : Int
  contentlen : Int
  transport : List UInt8
  clirtpport : List UInt8
  clirtcpport : List UInt8
  date : List UInt8
  contenttype : List UInt8
  data : List UInt8
  range : List UInt8

/-- The message after `memset`. Its type is the enumerator 0. -/
def RTSPMsg.zero : RTSPMsg where
  fields := 0
  type := .options
  cseq := 0
  session := 0
  contentlen := 0
  transport := []
  clirtpport := []
  clirtcpport := []
  date := []
  contenttype := []
  data := []
  range := []

/-- The bit is set in `fields`. -/
def RTSPMsg.has (msg : RTSPMsg) (field : BitVec 32) : Bool := msg.fields &&& field ≠ 0

/-! ## Parsing -/

/-- The type a message begins with. -/
def requestType (temp : List UInt8) : Option RtspMsgType :=
  if startsWith (ascii "OPTIONS") temp then some .options
  else if startsWith (ascii "DESCRIBE") temp then some .describe
  else if startsWith (ascii "SETUP") temp then some .setup
  else if startsWith (ascii "PLAY") temp then some .play
  else if startsWith (ascii "TEARDOWN") temp then some .teardown
  else if startsWith (ascii "RTSP/1.0 200 OK") temp then some .ok
  else none

/-- `sscanf(a + 12, "%[0-9]-%[0-9]", clirtpport, clirtcpport)`. -/
def scanPorts (msg : RTSPMsg) (text : List UInt8) : Except Undefined RTSPMsg :=
  match scanSet isDigit text with
  | none => .ok msg
  | some rtp => do
      let clirtpport ← storeString portLen msg.clirtpport (some rtp)
      let rtcp := (afterLiteral (ascii "-") (text.drop rtp.length)).bind (scanSet isDigit)
      let clirtcpport ← storeString portLen msg.clirtcpport rtcp
      .ok { msg with clirtpport := clirtpport, clirtcpport := clirtcpport }

/-- One line of `parse_rtsp`: the header it begins with, if it is one of those known. -/
def rtspHeader (msg : RTSPMsg) (temp : List UInt8) : Except Undefined RTSPMsg :=
  if startsWith (ascii "CSeq: ") temp then
    .ok { msg with
      cseq := (scanInt (temp.drop 6)).getD msg.cseq
      fields := msg.fields ||| fCseq }
  else if startsWith (ascii "Session: ") temp then
    .ok { msg with
      session := (scanInt (temp.drop 9)).getD msg.session
      fields := msg.fields ||| fSession }
  else if startsWith (ascii "Content-Length: ") temp then
    .ok { msg with
      contentlen := (scanInt (temp.drop 16)).getD msg.contentlen
      fields := msg.fields ||| fContlen }
  else if startsWith (ascii "Content-Type: ") temp then do
    let contenttype ← storeString fieldLen msg.contenttype (scanWord (temp.drop 14))
    .ok { msg with contenttype := contenttype, fields := msg.fields ||| fConttype }
  else if startsWith (ascii "Transport: ") temp then
    match strstr temp (ascii "client_port=") with
    | none => .error .nullPointer
    | some a => do
        let transport ← storeString fieldLen msg.transport (scanWord (temp.drop 11))
        let msg ← scanPorts { msg with transport := transport } (a.drop 12)
        .ok { msg with fields := msg.fields ||| fTransport }
  else if startsWith (ascii "Range: ") temp then do
    let range ← storeString fieldLen msg.range (scanWord (temp.drop 7))
    .ok { msg with range := range, fields := msg.fields ||| fRange }
  else .ok msg

/-- The loop of `parse_rtsp`. Each iteration moves on by a line, so the length of the string bounds
their number. -/
def rtspLines (stop : List UInt8) :
    Nat → List UInt8 → Bool → RTSPMsg → Except Undefined (Int × RTSPMsg)
  | 0, _, _, msg => .ok (1, msg)
  | steps + 1, temp, typeflag, msg =>
      if stop.length < temp.length then
        let typed := if typeflag then some msg else
          (requestType temp).map fun type => { msg with type := type, fields := msg.fields ||| fType }
        match typed with
        | none => .ok (-1, msg)
        | some msg => do
            let msg ← rtspHeader msg temp
            match strstr temp crlf with
            | none => .error .nullPointer
            | some next => rtspLines stop steps (next.drop 2) true msg
      else .ok (1, msg)

/-- `parse_rtsp`: the value returned and the message. -/
def parseRtsp (buffer : List UInt8) : Except Undefined (Int × RTSPMsg) :=
  match strstr buffer crlfcrlf with
  | none => .ok (1, RTSPMsg.zero)
  | some stop => rtspLines stop buffer.length buffer false RTSPMsg.zero

/-- Behind the first line nothing is rejected. -/
theorem rtspLines_result {stop : List UInt8} {steps : Nat} {temp : List UInt8}
    {msg msg' : RTSPMsg} {result : Int}
    (parsed : rtspLines stop steps temp true msg = .ok (result, msg')) : result = 1 := by
  induction steps generalizing temp msg with
  | zero =>
      cases parsed
      rfl
  | succ steps ih =>
      simp only [rtspLines, if_true] at parsed
      split at parsed
      · cases header : rtspHeader msg temp with
        | error reason => simp [header, bind, Except.bind] at parsed
        | ok next =>
            simp only [header, bind, Except.bind] at parsed
            split at parsed
            · cases parsed
            · exact ih parsed
      · cases parsed
        rfl

/-- A text without a header block leaves the message zeroed. -/
theorem parseRtsp_of_no_block {buffer : List UInt8} (absent : ¬ crlfcrlf <:+: buffer) :
    parseRtsp buffer = .ok (1, RTSPMsg.zero) := by
  rw [parseRtsp, strstr_eq_none_iff.mpr absent]

/-- A rejected message is left zeroed. -/
theorem parseRtsp_rejected {buffer : List UInt8} {msg : RTSPMsg}
    (rejected : parseRtsp buffer = .ok (-1, msg)) : msg = RTSPMsg.zero := by
  unfold parseRtsp at rejected
  split at rejected
  · cases rejected
  · rename_i stop _
    cases steps : buffer.length with
    | zero =>
        rw [steps] at rejected
        cases rejected
    | succ steps' =>
        rw [steps] at rejected
        simp only [rtspLines, Bool.false_eq_true, if_false] at rejected
        split at rejected
        · split at rejected
          · cases rejected
            rfl
          · rename_i typed _
            cases header : rtspHeader typed buffer with
            | error reason => simp [header, bind, Except.bind] at rejected
            | ok next =>
                simp only [header, bind, Except.bind] at rejected
                split at rejected
                · cases rejected
                · cases rtspLines_result rejected
        · cases rejected

/-! ## Writing -/

/-- A header line. -/
def headerLine (name : String) (value : List UInt8) : List UInt8 := ascii name ++ value ++ crlf

/-- `write_rtsp`: what is written to the buffer. The value returned is its length. -/
def writeRtsp (msg : RTSPMsg) : List UInt8 :=
  ascii "RTSP/1.0 200 OK\r\n" ++
    (if msg.has fCseq then headerLine "CSeq: " (decimal msg.cseq) else []) ++
    (if msg.has fDate then headerLine "Date: " msg.date else []) ++
    (if msg.has fSession then headerLine "Session: " (decimal msg.session) else []) ++
    (if msg.has fConttype then headerLine "Content-Type: " msg.contenttype else []) ++
    (if msg.has fContlen then headerLine "Content-Length: " (decimal msg.contentlen) else []) ++
    (if msg.has fTransport then headerLine "Transport: " msg.transport else []) ++
    (if msg.has fRange then headerLine "Range: " msg.range else []) ++
    crlf ++
    (if msg.has fData then msg.data else [])

end Http2Rtsp.Message
