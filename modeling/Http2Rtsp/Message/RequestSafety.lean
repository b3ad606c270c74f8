import Http2Rtsp.Message.Headers
import Http2Rtsp.Message.Replies
import Http2Rtsp.Std.Readings

/-!
# What a request stores

`parse_rtsp` in closed form. Every field of the message is the last value of a reading, whose
scans run on behind their line, and the parser keeps its meaning exactly when each value which is
scanned fits its array and every Transport line has a `client_port=` at or behind it. The reply to
a SETUP appends to the transport, so its safety is a condition on the last transport read.
-/

namespace Http2Rtsp.Message

open Http2Rtsp.Std

/-! ## The header of a line -/

/-- The headers `parse_rtsp` knows. -/
inductive HeaderName where
  | cseq
  | session
  | contlen
  | conttype
  | transport
  | range
deriving DecidableEq

/-- What is compared. -/
def HeaderName.text : HeaderName → String
  | .cseq => "CSeq: "
  | .session => "Session: "
  | .contlen => "Content-Length: "
  | .conttype => "Content-Type: "
  | .transport => "Transport: "
  | .range => "Range: "

/-- None of them begins another one. -/
def headerNames : Names HeaderName where
  bytes header := ascii header.text
  all := [.cseq, .session, .contlen, .conttype, .transport, .range]
  complete header := by cases header <;> decide
  apart header other distinct := by
    cases header <;> cases other <;> first | exact absurd rfl distinct | rfl

/-! ## Readings -/

def cseqReading : Reading Int := headerReading "CSeq: " scanInt
def sessionReading : Reading Int := headerReading "Session: " scanInt
def contentlenReading : Reading Int := headerReading "Content-Length: " scanInt
def contenttypeReading : Reading (List UInt8) := headerReading "Content-Type: " scanWord
def transportReading : Reading (List UInt8) := headerReading "Transport: " scanWord
def rangeReading : Reading (List UInt8) := headerReading "Range: " scanWord

/-- The digits behind `client_port=`. -/
def clientPort (text : List UInt8) : Option (List UInt8) :=
  (strstr text (ascii "client_port=")).bind fun a => scanSet isDigit (a.drop 12)

/-- The digits behind these and a hyphen. -/
def clientPortEnd (text : List UInt8) : Option (List UInt8) :=
  (strstr text (ascii "client_port=")).bind fun a =>
    (scanSet isDigit (a.drop 12)).bind fun rtp =>
      (afterLiteral (ascii "-") ((a.drop 12).drop rtp.length)).bind (scanSet isDigit)

def rtpportReading : Reading (List UInt8) where
  carries := startsWith (ascii "Transport: ")
  scan := clientPort

def rtcpportReading : Reading (List UInt8) where
  carries := startsWith (ascii "Transport: ")
  scan := clientPortEnd

/-! ## One line -/

/-- The strings scanned where a text begins fit their arrays. -/
structure ValuesFit (temp : List UInt8) : Prop where
  contenttype : ∀ word, contenttypeReading.readHere temp = some word → word.length < fieldLen
  transport : ∀ word, transportReading.readHere temp = some word → word.length < fieldLen
  range : ∀ word, rangeReading.readHere temp = some word → word.length < fieldLen
  clirtpport : ∀ port, rtpportReading.readHere temp = some port → port.length < portLen
  clirtcpport : ∀ port, rtcpportReading.readHere temp = some port → port.length < portLen

instance (temp : List UInt8) : Decidable (ValuesFit temp) :=
  decidable_of_iff
    ((∀ word ∈ contenttypeReading.readHere temp, word.length < fieldLen) ∧
      (∀ word ∈ transportReading.readHere temp, word.length < fieldLen) ∧
      (∀ word ∈ rangeReading.readHere temp, word.length < fieldLen) ∧
      (∀ port ∈ rtpportReading.readHere temp, port.length < portLen) ∧
      ∀ port ∈ rtcpportReading.readHere temp, port.length < portLen)
    ⟨fun ⟨contenttype, transport, range, rtp, rtcp⟩ => ⟨contenttype, transport, range, rtp, rtcp⟩,
      fun ⟨contenttype, transport, range, rtp, rtcp⟩ => ⟨contenttype, transport, range, rtp, rtcp⟩⟩

/-- What is scanned there fits, and a Transport line is followed by a `client_port=`. -/
structure Readable (temp : List UInt8) : Prop where
  pointer : startsWith (ascii "Transport: ") temp = true →
    strstr temp (ascii "client_port=") ≠ none
  fit : ValuesFit temp

/-- The message behind a line: what is read there, and what was read before. -/
def readHeader (msg : RTSPMsg) (temp : List UInt8) : RTSPMsg :=
  { msg with
    fields := msg.fields ||| headerField temp
    cseq := (cseqReading.readHere temp).getD msg.cseq
    session := (sessionReading.readHere temp).getD msg.session
    contentlen := (contentlenReading.readHere temp).getD msg.contentlen
    contenttype := (contenttypeReading.readHere temp).getD msg.contenttype
    transport := (transportReading.readHere temp).getD msg.transport
    range := (rangeReading.readHere temp).getD msg.range
    clirtpport := (rtpportReading.readHere temp).getD msg.clirtpport
    clirtcpport := (rtcpportReading.readHere temp).getD msg.clirtcpport }

/-- Two ports are stored exactly when both fit. -/
theorem scanPorts_eq_ok_iff {msg after : RTSPMsg} {text a : List UInt8}
    (found : strstr text (ascii "client_port=") = some a) :
    scanPorts msg (a.drop 12) = .ok after ↔
      (∀ port, clientPort text = some port → port.length < portLen) ∧
      (∀ port, clientPortEnd text = some port → port.length < portLen) ∧
      after = { msg with
        clirtpport := (clientPort text).getD msg.clirtpport
        clirtcpport := (clientPortEnd text).getD msg.clirtcpport } := by
  have first : clientPort text = scanSet isDigit (a.drop 12) := by
    rw [clientPort, found, Option.bind_some]
  have second : clientPortEnd text = (scanSet isDigit (a.drop 12)).bind fun rtp =>
      (afterLiteral (ascii "-") ((a.drop 12).drop rtp.length)).bind (scanSet isDigit) := by
    rw [clientPortEnd, found, Option.bind_some]
  rw [first, second, scanPorts]
  cases scanSet isDigit (a.drop 12) with
  | none =>
      simp only [Option.bind_none, Option.getD_none]
      exact ⟨fun same => ⟨nofun, nofun, (Except.ok.inj same).symm⟩, fun same => by rw [same.2.2]⟩
  | some rtp =>
      simp only [bind_eq_ok_iff, storeString_eq_ok_iff, Option.bind_some, Option.getD_some]
      constructor
      · rintro ⟨_, ⟨fits, rfl⟩, _, ⟨fitsEnd, rfl⟩, same⟩
        exact ⟨fits, fitsEnd, (Except.ok.inj same).symm⟩
      · rintro ⟨fits, fitsEnd, rfl⟩
        exact ⟨_, ⟨fits, rfl⟩, _, ⟨fitsEnd, rfl⟩, rfl⟩

section
variable {msg after : RTSPMsg} {temp : List UInt8}

/-- A line is read exactly when what is scanned there keeps its bounds. -/
theorem rtspHeader_eq_ok_iff :
    rtspHeader msg temp = .ok after ↔ Readable temp ∧ after = readHeader msg temp := by
  have cseq : startsWith (ascii "CSeq: ") temp =
      decide (headerNames.beginning temp = some .cseq) :=
    headerNames.startsWith_eq .cseq temp
  have session : startsWith (ascii "Session: ") temp =
      decide (headerNames.beginning temp = some .session) :=
    headerNames.startsWith_eq .session temp
  have contlen : startsWith (ascii "Content-Length: ") temp =
      decide (headerNames.beginning temp = some .contlen) :=
    headerNames.startsWith_eq .contlen temp
  have conttype : startsWith (ascii "Content-Type: ") temp =
      decide (headerNames.beginning temp = some .conttype) :=
    headerNames.startsWith_eq .conttype temp
  have transport : startsWith (ascii "Transport: ") temp =
      decide (headerNames.beginning temp = some .transport) :=
    headerNames.startsWith_eq .transport temp
  have range : startsWith (ascii "Range: ") temp =
      decide (headerNames.beginning temp = some .range) :=
    headerNames.startsWith_eq .range temp
  have readable : Readable temp ↔ (_ ∧ _ ∧ _ ∧ _ ∧ _ ∧ _) :=
    ⟨fun ⟨pointer, ⟨contenttype, transport, range, rtp, rtcp⟩⟩ =>
      ⟨pointer, contenttype, transport, range, rtp, rtcp⟩,
      fun ⟨pointer, contenttype, transport, range, rtp, rtcp⟩ =>
        ⟨pointer, ⟨contenttype, transport, range, rtp, rtcp⟩⟩⟩
  have sizes : "CSeq: ".length = 6 ∧ "Session: ".length = 9 ∧ "Content-Length: ".length = 16 ∧
      "Content-Type: ".length = 14 ∧ "Transport: ".length = 11 ∧ "Range: ".length = 7 :=
    ⟨rfl, rfl, rfl, rfl, rfl, rfl⟩
  rw [readable]
  unfold rtspHeader readHeader headerField
  simp only [Reading.readHere, cseqReading, sessionReading, contentlenReading, contenttypeReading,
    transportReading, rangeReading, rtpportReading, rtcpportReading, headerReading, cseq, session,
    contlen, conttype, transport, range, sizes]
  clear cseq session contlen conttype transport range
  generalize headerNames.beginning temp = here
  rcases here with _ | _ | _ | _ | _ | _ | _
  · simpa using eq_comm
  · simpa using eq_comm
  · simpa using eq_comm
  · simpa using eq_comm
  · simpa [bind_eq_ok_iff, storeString_eq_ok_iff] using fun _ => eq_comm
  · cases found : strstr temp (ascii "client_port=") with
    | none => simp
    | some a =>
        simp only [Option.some.injEq, reduceCtorEq, decide_false, Bool.false_eq_true, if_false,
          decide_true, if_true, bind_eq_ok_iff, storeString_eq_ok_iff, scanPorts_eq_ok_iff found,
          Except.ok.injEq, ↓existsAndEq, and_true, ne_eq, not_false_eq_true, imp_self,
          IsEmpty.forall_iff, implies_true, true_and, Option.getD_none]
        constructor
        · rintro ⟨word, ports, same⟩
          exact ⟨⟨word, ports⟩, same.symm⟩
        · rintro ⟨⟨word, ports⟩, same⟩
          exact ⟨word, ports, same.symm⟩
  · simpa [bind_eq_ok_iff, storeString_eq_ok_iff] using fun _ => eq_comm

end

/-! ## All lines -/

/-- Every line of a block is read within bounds. -/
def AllReadable (lines : List Line) (body : List UInt8) : Prop :=
  ∀ line rest, line :: rest <:+ lines → Readable (framed (line :: rest) body)

/-- The bits of the lines, and those set before. -/
def setFields (field : List UInt8 → BitVec 32) (lines : List (List UInt8)) (fields : BitVec 32) :
    BitVec 32 :=
  lines.foldl (fun fields line => fields ||| field line) fields

/-- A bit is set when a line has it, or when it was set before. -/
theorem setFields_and {field : List UInt8 → BitVec 32} {lines : List (List UInt8)}
    {fields bit : BitVec 32} : setFields field lines fields &&& bit ≠ 0 ↔
      fields &&& bit ≠ 0 ∨ ∃ line ∈ lines, field line &&& bit ≠ 0 := by
  induction lines generalizing fields with
  | nil => simp [setFields]
  | cons line lines ih =>
      have step : setFields field (line :: lines) fields =
          setFields field lines (fields ||| field line) := rfl
      rw [step, ih, or_and_ne_zero, List.exists_mem_cons_iff, or_assoc]

/-- The message behind a block: the last values read. -/
def readHeaders (lines : List Line) (body : List UInt8) (msg : RTSPMsg) : RTSPMsg :=
  { msg with
    fields := setFields headerField (lines.map Line.bytes) msg.fields
    cseq := (cseqReading.values lines body).getLastD msg.cseq
    session := (sessionReading.values lines body).getLastD msg.session
    contentlen := (contentlenReading.values lines body).getLastD msg.contentlen
    contenttype := (contenttypeReading.values lines body).getLastD msg.contenttype
    transport := (transportReading.values lines body).getLastD msg.transport
    range := (rangeReading.values lines body).getLastD msg.range
    clirtpport := (rtpportReading.values lines body).getLastD msg.clirtpport
    clirtcpport := (rtcpportReading.values lines body).getLastD msg.clirtcpport }

/-- The header of a line is that of the text from the line on. -/
theorem headerField_framed (line : Line) (lines : List Line) (body : List UInt8) :
    headerField (framed (line :: lines) body) = headerField line.bytes := by
  have name : ∀ name : String, 13 ∉ ascii name →
      startsWith (ascii name) (framed (line :: lines) body) = startsWith (ascii name) line.bytes :=
    fun name free => by rw [framed_cons, startsWith_line free]
  unfold headerField
  rw [name "CSeq: " (by decide), name "Session: " (by decide), name "Content-Length: " (by decide),
    name "Content-Type: " (by decide), name "Transport: " (by decide), name "Range: " (by decide)]

/-- One line, and then the others. -/
theorem readHeaders_cons (line : Line) (lines : List Line) (body : List UInt8) (msg : RTSPMsg) :
    readHeaders (line :: lines) body msg =
      readHeaders lines body (readHeader msg (framed (line :: lines) body)) := by
  simp only [readHeaders, readHeader, Reading.getLastD_values_cons, headerField_framed,
    setFields, List.map_cons, List.foldl_cons]

/-- The headers of a request in closed form. -/
theorem rtspHeaders_eq_ok_iff {lines : List Line} {body : List UInt8} {msg after : RTSPMsg} :
    rtspHeaders lines body msg = .ok after ↔
      AllReadable lines body ∧ after = readHeaders lines body msg :=
  lines_eq_ok_iff (fun _ _ => rfl) (fun _ _ _ _ => rfl) (fun _ _ => rfl) readHeaders_cons
    rtspHeader_eq_ok_iff

/-! ## Safety -/

/-- A message whose transport has room for the ports of any sockets. -/
def SetupFits (msg : RTSPMsg) : Prop :=
  ∀ client rand rtp rtcp, rtp < 2 ^ 16 → rtcp < 2 ^ 16 →
    ∃ replied, rtspSetup msg client rand rtp rtcp = .ok replied

/-- The parser keeps its bounds, and so does the reply to a SETUP with its message. -/
def ParsesSafely (buffer : List UInt8) : Prop :=
  ∃ result msg, parseRtsp buffer = .ok (result, msg) ∧ SetupFits msg

/-- A port has five digits at most. -/
theorem length_decimal_port {port : Nat} (bound : port < 2 ^ 16) :
    (decimal (port : Int)).length ≤ 5 := by
  have digits : (Nat.toDigits 10 port).length ≤ 5 := by
    rw [Nat.length_toDigits_le_iff (by omega) (by omega)]
    omega
  have positive : ¬ (port : Int) < 0 := by omega
  simp [decimal, positive, digits]

/-- What is appended to a transport takes 24 bytes at most. -/
theorem setupFits_iff (msg : RTSPMsg) : SetupFits msg ↔ msg.transport.length ≤ 75 := by
  have literal : (ascii ";server_port=").length = 13 := by decide
  have hyphen : (ascii "-").length = 1 := by decide
  have field : fieldLen = 100 := rfl
  constructor
  · intro fits
    obtain ⟨replied, written⟩ := fits initClient 0 65535 65535 (by decide) (by decide)
    have port : (decimal ((65535 : Nat) : Int)).length = 5 := by decide
    dsimp only [rtspSetup] at written
    split at written
    · rename_i room
      simp only [List.length_append, literal, hyphen, port] at room
      omega
    · cases written
  · intro short client rand rtp rtcp rtpBound rtcpBound
    have rtpDigits := length_decimal_port rtpBound
    have rtcpDigits := length_decimal_port rtcpBound
    refine ⟨_, if_pos ?_⟩
    simp only [List.length_append, literal, hyphen]
    omega

/-- The bounds a request has to keep itself. In a text with a header block of a supported type,
whatever is scanned at a header line fits its array, every Transport line has a `client_port=` at
or behind it, and the last transport leaves 25 bytes of its array. -/
def HeadersFit (buffer : List UInt8) : Prop :=
  ∀ lines body, buffer = framed lines body → requestType buffer ≠ none →
    AllReadable lines body ∧ ((transportReading.values lines body).getLastD []).length ≤ 75

/-- A request of a known type is parsed as the values read at its lines. -/
theorem parseRtsp_eq_ok_iff {lines : List Line} {body : List UInt8} {type : RtspMsgType}
    {result : Int} {msg : RTSPMsg} (some_ : lines ≠ [])
    (known : requestType (framed lines body) = some type) :
    parseRtsp (framed lines body) = .ok (result, msg) ↔
      AllReadable lines body ∧ result = 1 ∧ msg = readHeaders lines body (typedMsg type) := by
  have shape : parseRtsp (framed lines body) =
      (rtspHeaders lines body (typedMsg type)).map fun msg => (1, msg) := by
    rw [parseRtsp_framed some_, known]
  rw [shape]
  cases parsed : rtspHeaders lines body (typedMsg type) with
  | error reason =>
      constructor
      · intro same
        cases same
      · rintro ⟨all, -, -⟩
        rw [rtspHeaders_eq_ok_iff.mpr ⟨all, rfl⟩] at parsed
        cases parsed
  | ok after =>
      obtain ⟨all, rfl⟩ := rtspHeaders_eq_ok_iff.mp parsed
      rw [Except.map, Except.ok.injEq, Prod.mk.injEq]
      exact ⟨fun same => ⟨all, same.1.symm, same.2.symm⟩, fun same => ⟨same.2.1.symm, same.2.2.symm⟩⟩

/-- A text without a supported header block is parsed, and its message is zero. -/
theorem parseRtsp_unsupported {buffer : List UInt8}
    (unsupported : ∀ lines body, buffer = framed lines body → requestType buffer = none) :
    ∃ result, parseRtsp buffer = .ok (result, RTSPMsg.zero) := by
  by_cases blank : crlfcrlf <:+: buffer
  · obtain ⟨lines, body, rfl⟩ := framed_of_blank blank
    by_cases empty : lines = []
    · subst empty
      exact parseRtsp_empty_line body
    · exact ⟨-1, by rw [parseRtsp_framed empty, unsupported lines body rfl]⟩
  · exact ⟨1, parseRtsp_of_no_block blank⟩

/-- `parse_rtsp` and the reply to a SETUP are safe exactly on the texts whose headers fit. -/
theorem parsesSafely_iff (buffer : List UInt8) : ParsesSafely buffer ↔ HeadersFit buffer := by
  by_cases block : ∃ lines body, buffer = framed lines body ∧ requestType buffer ≠ none
  · obtain ⟨lines, body, rfl, supported⟩ := block
    obtain ⟨type, known⟩ := Option.ne_none_iff_exists'.mp supported
    have some_ : lines ≠ [] := by
      rintro rfl
      exact supported rfl
    constructor
    · rintro ⟨result, msg, parsed, fits⟩
      obtain ⟨all, -, rfl⟩ := (parseRtsp_eq_ok_iff some_ known).mp parsed
      intro lines' body' same _
      obtain ⟨rfl, rfl⟩ := framed_injective same
      exact ⟨all, (setupFits_iff _).mp fits⟩
    · intro fit
      obtain ⟨all, short⟩ := fit lines body rfl supported
      exact ⟨1, _, (parseRtsp_eq_ok_iff some_ known).mpr ⟨all, rfl, rfl⟩,
        (setupFits_iff _).mpr short⟩
  · have unsupported : ∀ lines body, buffer = framed lines body → requestType buffer = none := by
      intro lines body same
      by_contra supported
      exact block ⟨lines, body, same, supported⟩
    obtain ⟨result, parsed⟩ := parseRtsp_unsupported unsupported
    constructor
    · intro _ lines body same supported
      exact absurd (unsupported lines body same) supported
    · intro _
      exact ⟨result, RTSPMsg.zero, parsed, (setupFits_iff _).mpr (Nat.zero_le _)⟩

/-- A SETUP whose Transport names no ports. -/
def portlessSetup : List UInt8 :=
  ascii "SETUP rtsp://localhost/media RTSP/1.0\r\nCSeq: 2\r\nTransport: RTP/AVP;unicast\r\n\r\n"

/-- The parser offsets a null pointer there. -/
theorem parsesSafely_not_always : ¬ ∀ buffer : List UInt8, 0 ∉ buffer → buffer.length < bufSize →
    ParsesSafely buffer := by
  intro always
  obtain ⟨result, msg, parsed, -⟩ := always portlessSetup (by decide) (by decide)
  have undefined : parseRtsp portlessSetup = .error .nullPointer := by rfl
  rw [undefined] at parsed
  cases parsed

end Http2Rtsp.Message
