import Http2Rtsp.Message.RequestSafety

/-!
# A parser for one line at a time

What a request says when each header line is looked at alone, and the last line of a header
decides: a statement of what `parse_rtsp` is for, not taken from its loop. The scans of the parser
skip line ends and search to the end of the text, so it agrees with the reference exactly when no
value it keeps was read off another text than the last line of its header.
-/

namespace Http2Rtsp.Message

open Http2Rtsp.Std

/-- The lines of the header block of a text. -/
def blockLines (text : List UInt8) : List (List UInt8) := (headerBlock text).getD []

theorem blockLines_framed (lines : List Line) (body : List UInt8) :
    blockLines (framed lines body) = lines.map Line.bytes := by
  rw [blockLines, headerBlock_framed, Option.getD_some]

/-- The message of a request by its lines: each value is that of the last line with its header,
zero or empty when that line has none, and `fields` has the bits of the headers present. -/
def referenceRtsp (type : RtspMsgType) (lines : List (List UInt8)) : RTSPMsg :=
  { RTSPMsg.zero with
    type := type
    fields := setFields headerField lines fType
    cseq := (cseqReading.own lines).getD 0
    session := (sessionReading.own lines).getD 0
    contentlen := (contentlenReading.own lines).getD 0
    contenttype := (contenttypeReading.own lines).getD []
    transport := (transportReading.own lines).getD []
    range := (rangeReading.own lines).getD []
    clirtpport := (rtpportReading.own lines).getD []
    clirtcpport := (rtcpportReading.own lines).getD [] }

/-! ## The readings are local -/

theorem cseqReading_local : cseqReading.Local :=
  headerReading_local (by decide) fun _ rest _ => scanInt_of_line rest

theorem sessionReading_local : sessionReading.Local :=
  headerReading_local (by decide) fun _ rest _ => scanInt_of_line rest

theorem contentlenReading_local : contentlenReading.Local :=
  headerReading_local (by decide) fun _ rest _ => scanInt_of_line rest

theorem contenttypeReading_local : contenttypeReading.Local :=
  headerReading_local (by decide) fun _ rest _ => scanWord_of_line rest

theorem transportReading_local : transportReading.Local :=
  headerReading_local (by decide) fun _ rest _ => scanWord_of_line rest

theorem rangeReading_local : rangeReading.Local :=
  headerReading_local (by decide) fun _ rest _ => scanWord_of_line rest

/-- A `client_port=` in a line is the one which is found, with the twelve bytes behind it. -/
theorem strstr_port_line {line a : List UInt8} (rest : List UInt8)
    (found : strstr line (ascii "client_port=") = some a) :
    strstr (line ++ crlf ++ rest) (ascii "client_port=") = some (a ++ crlf ++ rest) ∧
      (a ++ crlf ++ rest).drop 12 = a.drop 12 ++ crlf ++ rest := by
  have long : 12 ≤ a.length := (strstr_some found).2.length_le
  refine ⟨?_, ?_⟩
  · rw [List.append_assoc, strstr_append _ found, List.append_assoc]
  · rw [List.append_assoc, List.drop_append_of_le_length long, List.append_assoc]

theorem clientPort_of_line {line port : List UInt8} (rest : List UInt8)
    (scanned : clientPort line = some port) :
    clientPort (line ++ crlf ++ rest) = some port := by
  obtain ⟨a, found, digits⟩ := Option.bind_eq_some_iff.mp scanned
  obtain ⟨found', behind⟩ := strstr_port_line rest found
  rw [clientPort, found', Option.bind_some, behind, scanSet_line rfl]
  exact digits

/-- A literal is read off a text which is continued. -/
theorem afterLiteral_continued {literal text given : List UInt8} (rest : List UInt8)
    (read : afterLiteral literal text = some given) :
    afterLiteral literal (text ++ rest) = some (given ++ rest) := by
  unfold afterLiteral at read ⊢
  split at read
  · rename_i begins
    obtain rfl := Option.some.inj read
    have literal_ := startsWith_iff.mp begins
    rw [if_pos (startsWith_iff.mpr (literal_.trans (List.prefix_append _ _))),
      List.drop_append_of_le_length literal_.length_le]
  · cases read

theorem clientPortEnd_of_line {line port : List UInt8} (rest : List UInt8)
    (scanned : clientPortEnd line = some port) :
    clientPortEnd (line ++ crlf ++ rest) = some port := by
  obtain ⟨a, found, ports⟩ := Option.bind_eq_some_iff.mp scanned
  obtain ⟨rtp, digits, later⟩ := Option.bind_eq_some_iff.mp ports
  obtain ⟨given, hyphen, port_⟩ := Option.bind_eq_some_iff.mp later
  obtain ⟨found', behind⟩ := strstr_port_line rest found
  have inside : rtp.length ≤ (a.drop 12).length := by
    unfold scanSet at digits
    split at digits
    · cases digits
    · obtain rfl := Option.some.inj digits
      exact (List.takeWhile_prefix _).length_le
  have hyphen' : afterLiteral (ascii "-") ((a.drop 12 ++ crlf ++ rest).drop rtp.length) =
      some (given ++ (crlf ++ rest)) := by
    rw [List.append_assoc, List.drop_append_of_le_length inside]
    exact afterLiteral_continued _ hyphen
  rw [clientPortEnd, found', Option.bind_some, behind, scanSet_line rfl, digits, Option.bind_some,
    hyphen', Option.bind_some, ← List.append_assoc, scanSet_line rfl]
  exact port_

theorem rtpportReading_local : rtpportReading.Local where
  carries line rest := startsWith_line (by decide) line rest
  scan _ rest _ _ := clientPort_of_line rest

theorem rtcpportReading_local : rtcpportReading.Local where
  carries line rest := startsWith_line (by decide) line rest
  scan _ rest _ _ := clientPortEnd_of_line rest

/-! ## Agreement -/

/-- What the parser keeps was read off the last lines of the headers. For a text, something stands
behind the name in that line, or nothing behind it in any line up to the end of the text; for a
number or a port, that line has one of its own, or the scans at the lines of the header, which run on
behind their line, have left zero or nothing. -/
structure OwnValues (lines : List Line) (body : List UInt8) : Prop where
  cseq : cseqReading.FromItsLine 0 lines body
  session : sessionReading.FromItsLine 0 lines body
  contentlen : contentlenReading.FromItsLine 0 lines body
  contenttype : TextFromItsLine "Content-Type: " lines body
  transport : TextFromItsLine "Transport: " lines body
  range : TextFromItsLine "Range: " lines body
  clirtpport : rtpportReading.FromItsLine [] lines body
  clirtcpport : rtcpportReading.FromItsLine [] lines body

/-- `%s` finds whatever is not white space. -/
theorem scanWord_findsText : FindsText scanWord :=
  scanSet_skipSpace_findsText fun byte plain => by rw [plain, Bool.not_false]

/-- What is left of a text is that of the last line exactly when it came from that line. -/
theorem getLastD_word_iff {r : Reading (List UInt8)} {name : String} (within : r.Local)
    (word : r = headerReading name scanWord) (lines : List Line) (body : List UInt8) :
    (r.values lines body).getLastD [] = (r.own (lines.map Line.bytes)).getD [] ↔
      TextFromItsLine name lines body := by
  subst word
  exact (Reading.getLastD_values_eq_own_iff within [] lines body).trans
    (fromItsLine_text_iff within scanWord_findsText)

/-- Then, and only then, the message is the reference. -/
theorem readHeaders_eq_reference_iff (type : RtspMsgType) (lines : List Line) (body : List UInt8) :
    readHeaders lines body (typedMsg type) = referenceRtsp type (lines.map Line.bytes) ↔
      OwnValues lines body := by
  have cseq := Reading.getLastD_values_eq_own_iff cseqReading_local 0 lines body
  have session := Reading.getLastD_values_eq_own_iff sessionReading_local 0 lines body
  have contentlen := Reading.getLastD_values_eq_own_iff contentlenReading_local 0 lines body
  have contenttype := getLastD_word_iff contenttypeReading_local rfl lines body
  have transport := getLastD_word_iff transportReading_local rfl lines body
  have range := getLastD_word_iff rangeReading_local rfl lines body
  have clirtpport := Reading.getLastD_values_eq_own_iff rtpportReading_local [] lines body
  have clirtcpport := Reading.getLastD_values_eq_own_iff rtcpportReading_local [] lines body
  constructor
  · intro same
    exact {
      cseq := cseq.mp (congrArg RTSPMsg.cseq same)
      session := session.mp (congrArg RTSPMsg.session same)
      contentlen := contentlen.mp (congrArg RTSPMsg.contentlen same)
      contenttype := contenttype.mp (congrArg RTSPMsg.contenttype same)
      transport := transport.mp (congrArg RTSPMsg.transport same)
      range := range.mp (congrArg RTSPMsg.range same)
      clirtpport := clirtpport.mp (congrArg RTSPMsg.clirtpport same)
      clirtcpport := clirtcpport.mp (congrArg RTSPMsg.clirtcpport same) }
  · intro own
    simp only [readHeaders, referenceRtsp, typedMsg, RTSPMsg.zero, cseq.mpr own.cseq,
      session.mpr own.session, contentlen.mpr own.contentlen, contenttype.mpr own.contenttype,
      transport.mpr own.transport, range.mpr own.range, clirtpport.mpr own.clirtpport,
      clirtcpport.mpr own.clirtcpport]
    rfl

/-- The requests whose header lines are read within bounds, each value off its own line. -/
def ReadsItsLines (buffer : List UInt8) : Prop :=
  ∀ lines body, buffer = framed lines body → AllReadable lines body ∧ OwnValues lines body

/-- `parse_rtsp` is the reference exactly on the requests whose values are read off their own
lines. -/
theorem parseRtsp_eq_reference_iff {buffer : List UInt8} {type : RtspMsgType}
    (blank : crlfcrlf <:+: buffer) (supported : requestType buffer = some type) :
    parseRtsp buffer = .ok (1, referenceRtsp type (blockLines buffer)) ↔ ReadsItsLines buffer := by
  obtain ⟨lines, body, rfl⟩ := framed_of_blank blank
  have some_ : lines ≠ [] := by
    rintro rfl
    cases supported
  rw [blockLines_framed, parseRtsp_eq_ok_iff some_ supported]
  constructor
  · rintro ⟨all, -, same⟩ lines' body' reading
    obtain ⟨rfl, rfl⟩ := framed_injective reading
    exact ⟨all, (readHeaders_eq_reference_iff type lines body).mp same.symm⟩
  · intro reads
    obtain ⟨all, own⟩ := reads lines body rfl
    exact ⟨all, rfl, ((readHeaders_eq_reference_iff type lines body).mpr own).symm⟩

/-- A request all of whose headers have their values. -/
def completeSetup : List UInt8 :=
  ascii "SETUP media RTSP/1.0\r\nCSeq: 3\r\nTransport: RTP/AVP;client_port=4040-4041\r\n\r\n"

/-- It is read off its lines. -/
theorem completeSetup_readsItsLines : ReadsItsLines completeSetup :=
  (@parseRtsp_eq_reference_iff completeSetup .setup (by decide +kernel) (by rfl)).mp (by rfl)

/-- A request whose Content-Type is empty. -/
def emptyTypeDescribe : List UInt8 :=
  ascii "DESCRIBE media RTSP/1.0\r\nContent-Type: \r\nCSeq: 2\r\n\r\n"

/-- The name of the next header is taken for its Content-Type. -/
theorem parseRtsp_not_reference : ¬ ∀ (buffer : List UInt8) (type : RtspMsgType), 0 ∉ buffer →
    buffer.length < bufSize → crlfcrlf <:+: buffer → requestType buffer = some type →
    (∀ line ∈ blockLines buffer, ValuesFit line) →
    parseRtsp buffer = .ok (1, referenceRtsp type (blockLines buffer)) := by
  intro always
  have same := always emptyTypeDescribe .describe (by decide +kernel) (by decide +kernel)
    (by decide +kernel) (by rfl) (by decide +kernel)
  have parsed : ∃ msg, parseRtsp emptyTypeDescribe = .ok (1, msg) ∧
      msg.contenttype = ascii "CSeq:" := ⟨_, rfl, rfl⟩
  obtain ⟨msg, parsed, contenttype⟩ := parsed
  rw [same, Except.ok.injEq, Prod.mk.injEq] at parsed
  obtain ⟨-, rfl⟩ := parsed
  have empty : (referenceRtsp .describe (blockLines emptyTypeDescribe)).contenttype = [] := by rfl
  rw [empty] at contenttype
  cases contenttype

end Http2Rtsp.Message
