import Http2Rtsp.Message.Answers

/-!
# What the writer writes, the parser reads

`write_rtsp` writes a line for every bit that is set, in a fixed order, and
`parse_rtsp` reads lines in any order. Each line sets the field it was written
from, whatever stands behind it, so the message comes back but for the date and
the data, which are not read.
-/

namespace Http2Rtsp.Message

open Http2Rtsp.Std

/-- A string which `%s` reads as it was written, into a field of a message. -/
structure Token (bytes : List UInt8) : Prop where
  nonempty : bytes ≠ []
  plain : ∀ byte ∈ bytes, isSpace byte = false
  fits : bytes.length < fieldLen

/-- The first `client_port=` of a transport is followed by two runs of one to nine digits, with a
hyphen between them and no digit behind. -/
structure GivesPorts (transport : List UInt8) (rtp rtcp : Digits) : Prop where
  first : ∃ rest, strstr transport (ascii "client_port=") =
      some (ascii "client_port=" ++ rtp.bytes ++ ascii "-" ++ rtcp.bytes ++ rest) ∧
    ∀ byte ∈ rest.head?, isDigit byte = false
  rtp : rtp.bytes.length < portLen
  rtcp : rtcp.bytes.length < portLen

/-- The bits `write_rtsp` looks at. -/
def writtenFields : BitVec 32 :=
  fCseq ||| fDate ||| fSession ||| fConttype ||| fContlen ||| fTransport ||| fRange ||| fData

/-- A message of which every part that is written can be read; these are its ports, if it has a
transport. -/
structure RTSPMsg.Writable (m : RTSPMsg) (rtp rtcp : Digits) : Prop where
  fields : m.fields &&& ~~~writtenFields = 0
  numbers : ∀ header : NumberHeader, IsInt (header.value m)
  date : m.has fDate = true → 13 ∉ m.date ∧ 10 ∉ m.date
  contenttype : m.has fConttype = true → Token m.contenttype
  range : m.has fRange = true → Token m.range
  transport : m.has fTransport = true → Token m.transport ∧ GivesPorts m.transport rtp rtcp

/-- The message which comes back: what was written, but for the date and the data. -/
structure ReadBack (m : RTSPMsg) (rtp rtcp : Digits) (parsed : RTSPMsg) : Prop where
  type : parsed.type = .ok
  fields : parsed.fields = (m.fields &&& ~~~(fDate ||| fData)) ||| fType
  numbers : ∀ header : NumberHeader, m.has header.field = true →
    header.value parsed = header.value m
  contenttype : m.has fConttype = true → parsed.contenttype = m.contenttype
  range : m.has fRange = true → parsed.range = m.range
  transport : m.has fTransport = true → parsed.transport = m.transport
  ports : m.has fTransport = true → parsed.clirtpport = rtp.bytes ∧ parsed.clirtcpport = rtcp.bytes

/-! ## Searching and scanning -/

/-- A search passes over a text in front, up to a byte which the needle lacks. -/
theorem strstr_behind {front needle : List UInt8} {byte : UInt8} (free : byte ∉ needle)
    (nonempty : needle ≠ []) (absent : ¬ needle <:+: front) (rest : List UInt8) :
    strstr (front ++ byte :: rest) needle = strstr rest needle := by
  induction front with
  | nil =>
      have other : ¬ startsWith needle (byte :: rest) = true := by
        rw [startsWith_iff]
        exact fun here => nonempty (List.prefix_nil.mp ((@prefix_before needle [] rest byte free).mp here))
      rw [List.nil_append, strstr, if_neg other]
  | cons first front ih =>
      rw [List.infix_cons_iff, not_or] at absent
      have other : ¬ startsWith needle (first :: (front ++ byte :: rest)) = true := by
        rw [startsWith_iff]
        exact fun here =>
          absent.1 ((@prefix_before needle (first :: front) rest byte free).mp here)
      rw [List.cons_append, strstr, if_neg other]
      exact ih absent.2

/-- A token is read up to the line end. -/
theorem Token.scan {bytes : List UInt8} (token : Token bytes) (rest : List UInt8) :
    scanWord (bytes ++ crlf ++ rest) = some bytes := by
  obtain ⟨first, tail, rfl⟩ := List.exists_cons_of_ne_nil token.nonempty
  have plain : isSpace first = false := token.plain first List.mem_cons_self
  have begins : skipSpace (first :: tail ++ crlf ++ rest) = first :: tail ++ crlf ++ rest := by
    rw [skipSpace]
    simp [plain]
  have word : (first :: tail ++ crlf ++ rest).takeWhile (fun byte => !isSpace byte) =
      first :: tail := by
    have accepted : ∀ byte ∈ first :: tail, (!isSpace byte) = true := fun byte member => by
      rw [token.plain byte member]
      rfl
    have stops : (crlf ++ rest).takeWhile (fun byte => !isSpace byte) = [] := rfl
    rw [List.append_assoc, List.takeWhile_append_of_pos accepted, stops, List.append_nil]
  rw [scanWord, begins, scanSet, word, if_neg token.nonempty]

/-- Its field holds it. -/
theorem Token.store {bytes : List UInt8} (token : Token bytes) (old rest : List UInt8) :
    storeString fieldLen old (scanWord (bytes ++ crlf ++ rest)) = .ok bytes := by
  rw [token.scan, storeString, if_pos token.fits]

theorem Token.free {bytes : List UInt8} (token : Token bytes) : 13 ∉ bytes := fun member => by
  cases token.plain 13 member

/-! ## One line -/

section Line

variable (msg : RTSPMsg) (rest : List UInt8)

/-- The header a line begins with is told from the others by its first letters. -/
theorem rtspHeader_cseq : rtspHeader msg (ascii "CSeq: " ++ rest) =
    .ok { msg with cseq := (scanInt rest).getD msg.cseq, fields := msg.fields ||| fCseq } := rfl

theorem rtspHeader_session : rtspHeader msg (ascii "Session: " ++ rest) =
    .ok { msg with session := (scanInt rest).getD msg.session, fields := msg.fields ||| fSession } :=
  rfl

theorem rtspHeader_contlen : rtspHeader msg (ascii "Content-Length: " ++ rest) =
    .ok { msg with
      contentlen := (scanInt rest).getD msg.contentlen
      fields := msg.fields ||| fContlen } := rfl

theorem rtspHeader_conttype : rtspHeader msg (ascii "Content-Type: " ++ rest) =
    (storeString fieldLen msg.contenttype (scanWord rest)).map fun contenttype =>
      { msg with contenttype := contenttype, fields := msg.fields ||| fConttype } := rfl

theorem rtspHeader_range : rtspHeader msg (ascii "Range: " ++ rest) =
    (storeString fieldLen msg.range (scanWord rest)).map fun range =>
      { msg with range := range, fields := msg.fields ||| fRange } := rfl

/-- The status line and the date are no headers which are read. -/
theorem rtspHeader_status : rtspHeader msg (ascii "RTSP/1.0 200 OK" ++ rest) = .ok msg := rfl

theorem rtspHeader_date : rtspHeader msg (ascii "Date: " ++ rest) = .ok msg := rfl

/-- The ports of a transport are read. -/
theorem scanPorts_given {rtp rtcp : Digits} {behind : List UInt8}
    (ends : ∀ byte ∈ behind.head?, isDigit byte = false) (rtpFits : rtp.bytes.length < portLen)
    (rtcpFits : rtcp.bytes.length < portLen) :
    scanPorts msg (rtp.bytes ++ (ascii "-" ++ (rtcp.bytes ++ behind))) =
      .ok { msg with clirtpport := rtp.bytes, clirtcpport := rtcp.bytes } := by
  have hyphen : ∀ byte ∈ (ascii "-" ++ (rtcp.bytes ++ behind)).head?, isDigit byte = false := by
    intro byte first
    obtain rfl := Option.some.inj first
    rfl
  have stored : ∀ {digits : Digits} (old : List UInt8), digits.bytes.length < portLen →
      storeString portLen old (some digits.bytes) = .ok digits.bytes := fun old fits => if_pos fits
  have second : (afterLiteral (ascii "-")
      ((rtp.bytes ++ (ascii "-" ++ (rtcp.bytes ++ behind))).drop rtp.bytes.length)).bind
        (scanSet isDigit) = some rtcp.bytes := by
    rw [List.drop_left, afterLiteral_self, Option.bind_some, scanSet_digits rtcp ends]
  rw [scanPorts, scanSet_digits rtp hyphen]
  simp only [second, stored _ rtpFits, stored _ rtcpFits, bind, Except.bind]

/-- The line of a transport. -/
theorem rtspHeader_transport {transport : List UInt8} {rtp rtcp : Digits} (token : Token transport)
    (ports : GivesPorts transport rtp rtcp) :
    rtspHeader msg (ascii "Transport: " ++ (transport ++ crlf ++ rest)) =
      .ok { msg with
        transport := transport
        clirtpport := rtp.bytes
        clirtcpport := rtcp.bytes
        fields := msg.fields ||| fTransport } := by
  obtain ⟨behind, found, ends⟩ := ports.first
  have line : strstr (ascii "Transport: " ++ (transport ++ crlf ++ rest)) (ascii "client_port=") =
      some (ascii "client_port=" ++
        (rtp.bytes ++ (ascii "-" ++ (rtcp.bytes ++ (behind ++ crlf ++ rest))))) := by
    have literal : ascii "Transport: " ++ (transport ++ crlf ++ rest) =
        ascii "Transport:" ++ 32 :: (transport ++ crlf ++ rest) := rfl
    rw [literal, strstr_behind (by decide) (by decide) (by decide), List.append_assoc,
      strstr_append _ found]
    simp only [List.append_assoc]
  have last : ∀ byte ∈ (behind ++ crlf ++ rest).head?, isDigit byte = false := by
    cases behind with
    | nil =>
        intro byte first
        obtain rfl := Option.some.inj first
        rfl
    | cons first behind => exact ends
  have dropped : (ascii "client_port=" ++
      (rtp.bytes ++ (ascii "-" ++ (rtcp.bytes ++ (behind ++ crlf ++ rest))))).drop 12 =
      rtp.bytes ++ (ascii "-" ++ (rtcp.bytes ++ (behind ++ crlf ++ rest))) := rfl
  have value : (ascii "Transport: " ++ (transport ++ crlf ++ rest)).drop 11 =
      transport ++ crlf ++ rest := rfl
  -- The names in front of this one in the chain of tests are others.
  rw [rtspHeader, if_neg (by exact Bool.false_ne_true), if_neg (by exact Bool.false_ne_true),
    if_neg (by exact Bool.false_ne_true), if_neg (by exact Bool.false_ne_true),
    if_pos (by exact rfl), line]
  simp only [value, token.store, dropped, scanPorts_given _ last ports.rtp ports.rtcp, bind, Except.bind]

end Line

/-! ## All lines -/

/-- The line of one bit, if it is set. -/
theorem rtspHeaders_line {m : RTSPMsg} {after : RTSPMsg → RTSPMsg} {field : BitVec 32} {name : String}
    {value body : List UInt8} {rest : List (List UInt8)} {lines : List Line}
    (same : lines.map Line.bytes = m.line field name value ++ rest)
    (set : m.has field = true →
      ∀ msg text, rtspHeader msg (ascii name ++ (value ++ crlf ++ text)) = .ok (after msg))
    (clear : m.has field = false → ∀ msg, after msg = msg) :
    ∃ later : List Line, later.map Line.bytes = rest ∧
      ∀ msg, rtspHeaders lines body msg = rtspHeaders later body (after msg) := by
  unfold RTSPMsg.line at same
  split at same
  · rename_i isSet
    obtain ⟨line, later, rfl, bytes, more⟩ := List.map_eq_cons_iff.mp same
    refine ⟨later, more, fun msg => ?_⟩
    have read : rtspHeader msg (framed (line :: later) body) = .ok (after msg) := by
      rw [framed_cons, bytes, List.append_assoc, List.append_assoc, ← List.append_assoc value]
      exact set isSet _ _
    rw [rtspHeaders, read]
    rfl
  · rename_i isClear
    refine ⟨lines, same, fun msg => ?_⟩
    rw [clear (Bool.eq_false_iff.mpr isClear)]

/-- What is in a mask of one bit, when it is set and when it is not. -/
theorem and_of_has {m : RTSPMsg} {bit : Nat} (set : m.has (BitVec.twoPow 32 bit) = true) :
    m.fields &&& BitVec.twoPow 32 bit = BitVec.twoPow 32 bit := by
  rw [has_iff, BitVec.and_twoPow] at set
  rw [BitVec.and_twoPow]
  split at set
  · rename_i one
    rw [if_pos one]
  · exact absurd rfl set

theorem and_of_not_has {m : RTSPMsg} {field : BitVec 32} (clear : m.has field = false) :
    m.fields &&& field = 0 := by
  rw [RTSPMsg.has, decide_eq_false_iff_not, not_not] at clear
  exact clear

/-- The bits which are read, of a message which has no others than those written. -/
theorem readFields {m : RTSPMsg} (fields : m.fields &&& ~~~writtenFields = 0) :
    0 ||| fType ||| (m.fields &&& fCseq) ||| (m.fields &&& fSession) ||| (m.fields &&& fConttype) |||
        (m.fields &&& fContlen) ||| (m.fields &&& fTransport) ||| (m.fields &&& fRange) =
      (m.fields &&& ~~~(fDate ||| fData)) ||| fType := by
  have known : m.fields = m.fields &&& writtenFields := by
    calc m.fields = m.fields &&& BitVec.allOnes 32 := BitVec.and_allOnes.symm
      _ = m.fields &&& (writtenFields ||| ~~~writtenFields) := by rw [BitVec.or_not_self]
      _ = (m.fields &&& writtenFields) ||| (m.fields &&& ~~~writtenFields) :=
        BitVec.and_or_distrib_left
      _ = m.fields &&& writtenFields := by
        rw [fields]
        exact BitVec.or_zero
  have six : writtenFields &&& ~~~(fDate ||| fData) =
      fCseq ||| fSession ||| fConttype ||| fContlen ||| fTransport ||| fRange := rfl
  have kept : m.fields &&& ~~~(fDate ||| fData) =
      (m.fields &&& fCseq) ||| (m.fields &&& fSession) ||| (m.fields &&& fConttype) |||
        (m.fields &&& fContlen) ||| (m.fields &&& fTransport) ||| (m.fields &&& fRange) := by
    rw [known, BitVec.and_assoc, six, ← known]
    simp only [BitVec.and_or_distrib_left]
  have start : (0 ||| fType : BitVec 32) = fType := rfl
  rw [start, kept, BitVec.or_comm _ fType]
  simp only [BitVec.or_assoc]

section Lines

variable {m : RTSPMsg} {lines : List Line} {rest : List (List UInt8)}

/-- The message behind the lines of one bit, if it is set, and else as it was. -/
def readCseq (m msg : RTSPMsg) : RTSPMsg :=
  { msg with
    cseq := if m.has fCseq then m.cseq else msg.cseq
    fields := msg.fields ||| (m.fields &&& fCseq) }

def readSession (m msg : RTSPMsg) : RTSPMsg :=
  { msg with
    session := if m.has fSession then m.session else msg.session
    fields := msg.fields ||| (m.fields &&& fSession) }

def readConttype (m msg : RTSPMsg) : RTSPMsg :=
  { msg with
    contenttype := if m.has fConttype then m.contenttype else msg.contenttype
    fields := msg.fields ||| (m.fields &&& fConttype) }

def readContlen (m msg : RTSPMsg) : RTSPMsg :=
  { msg with
    contentlen := if m.has fContlen then m.contentlen else msg.contentlen
    fields := msg.fields ||| (m.fields &&& fContlen) }

def readTransport (m : RTSPMsg) (rtp rtcp : Digits) (msg : RTSPMsg) : RTSPMsg :=
  { msg with
    transport := if m.has fTransport then m.transport else msg.transport
    clirtpport := if m.has fTransport then rtp.bytes else msg.clirtpport
    clirtcpport := if m.has fTransport then rtcp.bytes else msg.clirtcpport
    fields := msg.fields ||| (m.fields &&& fTransport) }

def readRange (m msg : RTSPMsg) : RTSPMsg :=
  { msg with
    range := if m.has fRange then m.range else msg.range
    fields := msg.fields ||| (m.fields &&& fRange) }

theorem number_ends (text : List UInt8) : ∀ byte ∈ (crlf ++ text).head?, isDigit byte = false := by
  simp [crlf, ascii, isDigit]

theorem rtspHeaders_cseq (body : List UInt8) (bounds : IsInt m.cseq)
    (same : lines.map Line.bytes = m.line fCseq "CSeq: " (decimal m.cseq) ++ rest) :
    ∃ later : List Line, later.map Line.bytes = rest ∧
      ∀ msg, rtspHeaders lines body msg = rtspHeaders later body (readCseq m msg) := by
  refine rtspHeaders_line same (fun set msg text => ?_) fun clear msg => ?_
  · have bit : m.fields &&& fCseq = fCseq := @and_of_has m 1 set
    rw [rtspHeader_cseq, List.append_assoc, scanInt_decimal bounds (number_ends text), readCseq,
      if_pos set, bit]
    rfl
  · rw [readCseq, clear, and_of_not_has clear]
    exact congrArg (fun fields => { msg with fields := fields }) BitVec.or_zero

theorem rtspHeaders_session (body : List UInt8) (bounds : IsInt m.session)
    (same : lines.map Line.bytes = m.line fSession "Session: " (decimal m.session) ++ rest) :
    ∃ later : List Line, later.map Line.bytes = rest ∧
      ∀ msg, rtspHeaders lines body msg = rtspHeaders later body (readSession m msg) := by
  refine rtspHeaders_line same (fun set msg text => ?_) fun clear msg => ?_
  · have bit : m.fields &&& fSession = fSession := @and_of_has m 2 set
    rw [rtspHeader_session, List.append_assoc, scanInt_decimal bounds (number_ends text),
      readSession, if_pos set, bit]
    rfl
  · rw [readSession, clear, and_of_not_has clear]
    exact congrArg (fun fields => { msg with fields := fields }) BitVec.or_zero

theorem rtspHeaders_contlen (body : List UInt8) (bounds : IsInt m.contentlen)
    (same : lines.map Line.bytes = m.line fContlen "Content-Length: " (decimal m.contentlen) ++ rest) :
    ∃ later : List Line, later.map Line.bytes = rest ∧
      ∀ msg, rtspHeaders lines body msg = rtspHeaders later body (readContlen m msg) := by
  refine rtspHeaders_line same (fun set msg text => ?_) fun clear msg => ?_
  · have bit : m.fields &&& fContlen = fContlen := @and_of_has m 3 set
    rw [rtspHeader_contlen, List.append_assoc, scanInt_decimal bounds (number_ends text),
      readContlen, if_pos set, bit]
    rfl
  · rw [readContlen, clear, and_of_not_has clear]
    exact congrArg (fun fields => { msg with fields := fields }) BitVec.or_zero

theorem rtspHeaders_conttype (body : List UInt8)
    (token : m.has fConttype = true → Token m.contenttype)
    (same : lines.map Line.bytes = m.line fConttype "Content-Type: " m.contenttype ++ rest) :
    ∃ later : List Line, later.map Line.bytes = rest ∧
      ∀ msg, rtspHeaders lines body msg = rtspHeaders later body (readConttype m msg) := by
  refine rtspHeaders_line same (fun set msg text => ?_) fun clear msg => ?_
  · have bit : m.fields &&& fConttype = fConttype := @and_of_has m 4 set
    rw [rtspHeader_conttype, (token set).store, readConttype, if_pos set, bit]
    rfl
  · rw [readConttype, clear, and_of_not_has clear]
    exact congrArg (fun fields => { msg with fields := fields }) BitVec.or_zero

theorem rtspHeaders_range (body : List UInt8)
    (token : m.has fRange = true → Token m.range)
    (same : lines.map Line.bytes = m.line fRange "Range: " m.range ++ rest) :
    ∃ later : List Line, later.map Line.bytes = rest ∧
      ∀ msg, rtspHeaders lines body msg = rtspHeaders later body (readRange m msg) := by
  refine rtspHeaders_line same (fun set msg text => ?_) fun clear msg => ?_
  · have bit : m.fields &&& fRange = fRange := @and_of_has m 6 set
    rw [rtspHeader_range, (token set).store, readRange, if_pos set, bit]
    rfl
  · rw [readRange, clear, and_of_not_has clear]
    exact congrArg (fun fields => { msg with fields := fields }) BitVec.or_zero

theorem rtspHeaders_transport (body : List UInt8) {rtp rtcp : Digits}
    (given : m.has fTransport = true → Token m.transport ∧ GivesPorts m.transport rtp rtcp)
    (same : lines.map Line.bytes = m.line fTransport "Transport: " m.transport ++ rest) :
    ∃ later : List Line, later.map Line.bytes = rest ∧
      ∀ msg, rtspHeaders lines body msg = rtspHeaders later body (readTransport m rtp rtcp msg) := by
  refine rtspHeaders_line same (fun set msg text => ?_) fun clear msg => ?_
  · have bit : m.fields &&& fTransport = fTransport := @and_of_has m 5 set
    rw [rtspHeader_transport msg text (given set).1 (given set).2, readTransport, if_pos set,
      if_pos set, if_pos set, bit]
  · rw [readTransport, clear, and_of_not_has clear]
    exact congrArg (fun fields => { msg with fields := fields }) BitVec.or_zero

theorem rtspHeaders_date (body : List UInt8)
    (same : lines.map Line.bytes = m.line fDate "Date: " m.date ++ rest) :
    ∃ later : List Line, later.map Line.bytes = rest ∧
      ∀ msg, rtspHeaders lines body msg = rtspHeaders later body msg :=
  @rtspHeaders_line m id _ _ _ _ _ _ same (fun _ msg _ => rtspHeader_date msg _) fun _ _ => rfl

end Lines

/-- What the writer writes is read back. -/
theorem parseRtsp_writeRtsp {m : RTSPMsg} {rtp rtcp : Digits} (writable : m.Writable rtp rtcp) :
    ∃ parsed, parseRtsp (writeRtsp m) = .ok (1, parsed) ∧ ReadBack m rtp rtcp parsed := by
  have proper := replyLines_proper_of (fun set => (writable.date set).1)
    (fun set => (writable.contenttype set).free) (fun set => (writable.transport set).1.free)
    fun set => (writable.range set).free
  obtain ⟨lines, same, written⟩ := writeRtsp_framed_of proper
  rw [← List.append_nil (replyLines m)] at same
  simp only [replyLines, List.append_assoc] at same
  obtain ⟨status, lines, rfl, statusBytes, same⟩ := List.map_eq_cons_iff.mp same
  have known : requestType (framed (status :: lines) (replyBody m)) = some .ok := by
    rw [framed_cons, statusBytes]
    rfl
  have first : rtspHeaders (status :: lines) (replyBody m) (typedMsg .ok) =
      rtspHeaders lines (replyBody m) (typedMsg .ok) := by
    rw [rtspHeaders, framed_cons, statusBytes, List.append_assoc, rtspHeader_status]
    rfl
  -- One line after the other, in the order in which they were written.
  obtain ⟨lines, same, cseq⟩ := rtspHeaders_cseq (replyBody m) (writable.numbers .cseq) same
  obtain ⟨lines, same, date⟩ := rtspHeaders_date (replyBody m) same
  obtain ⟨lines, same, session⟩ := rtspHeaders_session (replyBody m) (writable.numbers .session) same
  obtain ⟨lines, same, conttype⟩ := rtspHeaders_conttype (replyBody m) writable.contenttype same
  obtain ⟨lines, same, contlen⟩ := rtspHeaders_contlen (replyBody m) (writable.numbers .contlen) same
  obtain ⟨lines, same, transport⟩ := rtspHeaders_transport (replyBody m) writable.transport same
  obtain ⟨lines, same, range⟩ := rtspHeaders_range (replyBody m) writable.range same
  obtain rfl := List.map_eq_nil_iff.mp same
  refine ⟨readRange m (readTransport m rtp rtcp (readContlen m (readConttype m
    (readSession m (readCseq m (typedMsg .ok)))))), ?_, ?_⟩
  · rw [written, parseRtsp_framed (List.cons_ne_nil _ _), known]
    simp only [first, cseq, date, session, conttype, contlen, transport, range]
    rfl
  · exact
      { type := rfl
        fields := readFields writable.fields
        numbers := fun header set => by
          cases header with
          | cseq => exact if_pos set
          | session => exact if_pos set
          | contlen => exact if_pos set
        contenttype := fun set => if_pos set
        range := fun set => if_pos set
        transport := fun set => if_pos set
        ports := fun set => ⟨if_pos set, if_pos set⟩ }

/-- A message with every bit set. -/
def someMsg : RTSPMsg :=
  { RTSPMsg.zero with
    fields := writtenFields
    cseq := -3
    session := 123456
    contentlen := 4
    contenttype := ascii "application/sdp"
    transport := ascii "RTP/AVP;unicast;client_port=6770-6771;server_port=1-2"
    date := ascii "today"
    range := ascii "npt=0-"
    data := ascii "v=0\r\n" }

/-- It comes back. -/
theorem parseRtsp_writeRtsp_all : ∃ parsed, parseRtsp (writeRtsp someMsg) = .ok (1, parsed) ∧
    ReadBack someMsg (digitsOf 6770) (digitsOf 6771) parsed := by
  refine parseRtsp_writeRtsp ⟨rfl, fun header => ?_, fun _ => by decide, fun _ => ?_, fun _ => ?_,
    fun _ => ⟨?_, ?_⟩⟩
  · cases header <;> exact ⟨by decide +kernel, by decide +kernel⟩
  · exact ⟨by decide +kernel, by decide +kernel, by decide +kernel⟩
  · exact ⟨by decide +kernel, by decide +kernel, by decide +kernel⟩
  · exact ⟨by decide +kernel, by decide +kernel, by decide +kernel⟩
  · exact ⟨⟨ascii ";server_port=1-2", by decide +kernel, by decide +kernel⟩,
      by decide +kernel, by decide +kernel⟩

end Http2Rtsp.Message
