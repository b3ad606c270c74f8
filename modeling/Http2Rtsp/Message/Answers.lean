import Http2Rtsp.Message.Headers
import Http2Rtsp.Message.Replies

/-!
# The replies as messages

What `write_rtsp` writes is a status line, the headers whose bits are set and the
data. Read as a message, a reply has these lines and this body, and the numbers
in it are those of the `RTSPMsg` it was made from.
-/

namespace Http2Rtsp.Message

open Http2Rtsp.Std

/-- The line of a header, if its bit is set. -/
def RTSPMsg.line (msg : RTSPMsg) (field : BitVec 32) (name : String) (value : List UInt8) :
    List (List UInt8) :=
  if msg.has field then [ascii name ++ value] else []

/-- The lines `write_rtsp` writes. -/
def replyLines (msg : RTSPMsg) : List (List UInt8) :=
  [ascii "RTSP/1.0 200 OK"] ++
    msg.line fCseq "CSeq: " (decimal msg.cseq) ++
    msg.line fDate "Date: " msg.date ++
    msg.line fSession "Session: " (decimal msg.session) ++
    msg.line fConttype "Content-Type: " msg.contenttype ++
    msg.line fContlen "Content-Length: " (decimal msg.contentlen) ++
    msg.line fTransport "Transport: " msg.transport ++
    msg.line fRange "Range: " msg.range

/-- What it writes behind them. -/
def replyBody (msg : RTSPMsg) : List UInt8 := if msg.has fData then msg.data else []

/-- The strings of a message have no line ends, so that its lines are lines. -/
structure RTSPMsg.Lined (msg : RTSPMsg) : Prop where
  date : msg.has fDate = true → 13 ∉ msg.date
  contenttype : 13 ∉ msg.contenttype
  transport : 13 ∉ msg.transport
  range : 13 ∉ msg.range

theorem no_crlf {text : List UInt8} (free : 13 ∉ text) : ¬ crlf <:+: text := fun occurs =>
  free (occurs.subset List.mem_cons_self)

theorem flatMap_line (msg : RTSPMsg) (field : BitVec 32) (name : String) (value : List UInt8) :
    ((msg.line field name value).flatMap fun bytes => bytes ++ crlf) =
      if msg.has field then headerLine name value else [] := by
  unfold RTSPMsg.line headerLine
  split <;> simp

/-- The writer writes these lines and this body. -/
theorem writeRtsp_eq (msg : RTSPMsg) :
    writeRtsp msg =
      ((replyLines msg).flatMap fun bytes => bytes ++ crlf) ++ crlf ++ replyBody msg := by
  have status : (fun bytes => bytes ++ crlf) (ascii "RTSP/1.0 200 OK") =
      ascii "RTSP/1.0 200 OK\r\n" := rfl
  simp only [writeRtsp, replyLines, replyBody, List.flatMap_append, flatMap_line,
    List.flatMap_singleton, status]

/-- Nothing in them ends a line, if nothing in the strings does which are written. -/
theorem replyLines_proper_of {msg : RTSPMsg} (dateFree : msg.has fDate = true → 13 ∉ msg.date)
    (conttypeFree : msg.has fConttype = true → 13 ∉ msg.contenttype)
    (transportFree : msg.has fTransport = true → 13 ∉ msg.transport)
    (rangeFree : msg.has fRange = true → 13 ∉ msg.range) :
    ∀ text ∈ replyLines msg, text ≠ [] ∧ ¬ crlf <:+: text := by
  have header : ∀ {field name value}, ascii name ≠ [] → 13 ∉ ascii name →
      (msg.has field = true → 13 ∉ value) →
      ∀ text ∈ msg.line field name value, text ≠ [] ∧ ¬ crlf <:+: text := by
    intro field name value nonempty nameFree valueFree text member
    unfold RTSPMsg.line at member
    split at member
    · rename_i set
      obtain rfl := List.mem_singleton.mp member
      refine ⟨by simp [nonempty], no_crlf fun occurs => ?_⟩
      exact (List.mem_append.mp occurs).elim nameFree (valueFree set)
    · cases member
  intro text member
  simp only [replyLines, List.mem_append, List.mem_singleton] at member
  rcases member with ((((((status | cseq) | date) | session) | conttype) | contlen) | transport) | range
  · subst status
    exact ⟨by decide, no_crlf (by decide)⟩
  · exact header (by decide) (by decide) (fun _ => decimal_no_cr _) text cseq
  · exact header (by decide) (by decide) dateFree text date
  · exact header (by decide) (by decide) (fun _ => decimal_no_cr _) text session
  · exact header (by decide) (by decide) conttypeFree text conttype
  · exact header (by decide) (by decide) (fun _ => decimal_no_cr _) text contlen
  · exact header (by decide) (by decide) transportFree text transport
  · exact header (by decide) (by decide) rangeFree text range

theorem replyLines_proper {msg : RTSPMsg} (lined : msg.Lined) :
    ∀ text ∈ replyLines msg, text ≠ [] ∧ ¬ crlf <:+: text :=
  replyLines_proper_of lined.date (fun _ => lined.contenttype) (fun _ => lined.transport)
    fun _ => lined.range

/-- What the writer writes is a message. -/
theorem writeRtsp_framed_of {msg : RTSPMsg}
    (proper : ∀ text ∈ replyLines msg, text ≠ [] ∧ ¬ crlf <:+: text) :
    ∃ lines : List Line, lines.map Line.bytes = replyLines msg ∧
      writeRtsp msg = framed lines (replyBody msg) := by
  obtain ⟨lines, same⟩ := exists_lines proper
  refine ⟨lines, same, ?_⟩
  rw [writeRtsp_eq, ← same, ← block_eq]
  rfl

theorem writeRtsp_framed {msg : RTSPMsg} (lined : msg.Lined) :
    ∃ lines : List Line, lines.map Line.bytes = replyLines msg ∧
      writeRtsp msg = framed lines (replyBody msg) :=
  writeRtsp_framed_of (replyLines_proper lined)

/-- The line `rtsp_options` adds. -/
def publicLine : List UInt8 := ascii "Public: DESCRIBE, SETUP, PLAY, TEARDOWN"

/-- A reply to an OPTIONS is a message with one line more. -/
theorem rtspOptions_framed {msg : RTSPMsg} (lined : msg.Lined) (bare : msg.has fData = false)
    (client : Client) :
    ∃ lines : List Line, lines.map Line.bytes = replyLines msg ++ [publicLine] ∧
      (rtspOptions msg client).2 = framed lines [] := by
  have proper : ∀ text ∈ replyLines msg ++ [publicLine], text ≠ [] ∧ ¬ crlf <:+: text := by
    intro text member
    rcases List.mem_append.mp member with earlier | last
    · exact replyLines_proper lined text earlier
    · obtain rfl := List.mem_singleton.mp last
      exact ⟨by decide, no_crlf (by decide)⟩
  obtain ⟨lines, same⟩ := exists_lines proper
  refine ⟨lines, same, ?_⟩
  have noBody : replyBody msg = [] := by simp [replyBody, bare]
  have two : crlf.length = 2 := rfl
  have added : ascii "Public: DESCRIBE, SETUP, PLAY, TEARDOWN\r\n\r\n" = publicLine ++ crlf ++ crlf := rfl
  rw [rtspOptions, writeRtsp_eq, noBody, List.append_nil, framed, block_eq, same, added]
  simp only [List.length_append, two, Nat.add_sub_cancel, List.take_left, List.flatMap_append,
    List.flatMap_singleton, List.append_assoc, List.append_nil]

/-! ## Numbers -/

/-- Another line than those of the numbers. -/
theorem filterMap_line_other {msg : RTSPMsg} {field : BitVec 32} {name other : String}
    {value : List UInt8} (apart : startsWith (ascii name) (ascii other) = false ∧
      startsWith (ascii other) (ascii name) = false) :
    (msg.line field name value).filterMap (afterLiteral (ascii other)) = [] := by
  unfold RTSPMsg.line
  split
  · simp [afterLiteral_apart value apart]
  · rfl

theorem filterMap_line_self {msg : RTSPMsg} {field : BitVec 32} {name : String}
    {value : List UInt8} :
    (msg.line field name value).filterMap (afterLiteral (ascii name)) =
      if msg.has field then [value] else [] := by
  unfold RTSPMsg.line
  split
  · simp [afterLiteral_self]
  · rfl

/-- The values of the headers of a number in a reply. -/
def RTSPMsg.numbers (msg : RTSPMsg) (header : NumberHeader) : List (List UInt8) :=
  if msg.has header.field then [decimal (header.value msg)] else []

/-- The lines of a reply with the name of a number. -/
theorem filterMap_replyLines (msg : RTSPMsg) (header : NumberHeader) :
    (replyLines msg).filterMap (afterLiteral (ascii header.name)) = msg.numbers header := by
  -- All names but its own are told apart by their first letters.
  cases header with
  | cseq =>
      simp (disch := exact ⟨rfl, rfl⟩) only [replyLines, List.filterMap_append,
        filterMap_line_other, NumberHeader.name, List.append_nil]
      exact filterMap_line_self
  | session =>
      simp (disch := exact ⟨rfl, rfl⟩) only [replyLines, List.filterMap_append,
        filterMap_line_other, NumberHeader.name, List.append_nil]
      exact filterMap_line_self
  | contlen =>
      simp (disch := exact ⟨rfl, rfl⟩) only [replyLines, List.filterMap_append,
        filterMap_line_other, NumberHeader.name, List.append_nil]
      exact filterMap_line_self

/-- The numbers which are read in a reply. -/
theorem headers_writeRtsp {msg : RTSPMsg} (lined : msg.Lined) (header : NumberHeader) :
    headers header.name (writeRtsp msg) = msg.numbers header := by
  obtain ⟨lines, same, written⟩ := writeRtsp_framed lined
  rw [written, headers_framed, same, filterMap_replyLines]

theorem headers_rtspOptions {msg : RTSPMsg} (lined : msg.Lined) (bare : msg.has fData = false)
    (client : Client) (header : NumberHeader) :
    headers header.name (rtspOptions msg client).2 = msg.numbers header := by
  obtain ⟨lines, same, written⟩ := rtspOptions_framed lined bare client
  have added : [publicLine].filterMap (afterLiteral (ascii header.name)) = [] := by
    cases header <;> rfl
  rw [written, headers_framed, same, List.filterMap_append, filterMap_replyLines, added,
    List.append_nil]

/-! ## The messages of the replies -/

/-- What `rtsp_describe` writes. -/
def describeMsg (client : Client) (date : List UInt8) : RTSPMsg :=
  { RTSPMsg.zero with
    fields := fCseq ||| fDate ||| fConttype ||| fContlen ||| fData
    cseq := client.cseq
    date := date
    contenttype := ascii "application/sdp"
    data := sdp
    contentlen := sdp.length }

/-- The `Transport` of a reply to a SETUP. -/
def setupTransport (msg : RTSPMsg) (rtp rtcp : Nat) : List UInt8 :=
  msg.transport ++ ascii ";server_port=" ++ decimal rtp ++ ascii "-" ++ decimal rtcp

/-- What `rtsp_setup` writes. -/
def setupMsg (msg : RTSPMsg) (session : Int) (rtp rtcp : Nat) : RTSPMsg :=
  { msg with
    session := session
    fields := msg.fields ||| fSession
    transport := setupTransport msg rtp rtcp }

/-- What `rtsp_play` writes. -/
def playMsg (msg : RTSPMsg) (date : List UInt8) : RTSPMsg :=
  { msg with date := date, fields := (msg.fields ||| fDate) ^^^ fSession }

/-- What `rtsp_teardown` writes. -/
def teardownMsg (msg : RTSPMsg) : RTSPMsg := { msg with type := .ok, fields := fSession ||| fCseq }

theorem rtspDescribe_reply (client : Client) (date : List UInt8) :
    (rtspDescribe client date).2 = writeRtsp (describeMsg client date) := rfl

theorem rtspSetup_reply {msg : RTSPMsg} {client after : Client} {rand rtp rtcp : Nat}
    {reply : List UInt8} (written : rtspSetup msg client rand rtp rtcp = .ok (after, reply)) :
    after = { client with session := (rand % 1000000 : Nat) } ∧
      reply = writeRtsp (setupMsg msg (rand % 1000000 : Nat) rtp rtcp) := by
  unfold rtspSetup at written
  dsimp only at written
  split at written
  · cases written
    exact ⟨rfl, rfl⟩
  · cases written

theorem rtspPlay_reply (msg : RTSPMsg) (date : List UInt8) :
    rtspPlay msg date = writeRtsp (playMsg msg date) := rfl

theorem rtspTeardown_reply (msg : RTSPMsg) : rtspTeardown msg = writeRtsp (teardownMsg msg) := rfl

/-- A mask of one bit tests it. -/
theorem has_bit (msg : RTSPMsg) {bit : Nat} (bound : bit < 32) :
    msg.has (BitVec.twoPow 32 bit) = msg.fields.getLsbD bit := by
  have nonzero : BitVec.twoPow 32 bit ≠ 0 := by
    intro zero
    have same := congrArg (fun vector => vector.getLsbD bit) zero
    simp [bound] at same
  unfold RTSPMsg.has
  rw [BitVec.and_twoPow]
  split
  · rename_i set
    rw [set]
    exact decide_eq_true nonzero
  · rename_i clear
    simp [Bool.eq_false_iff.mpr clear]

/-- The bits of a reply to a PLAY: the date is set, and the session is toggled. -/
theorem has_play (msg : RTSPMsg) (date : List UInt8) :
    (playMsg msg date).has fDate = true ∧
      (playMsg msg date).has fSession = (!msg.has fSession) ∧
      (playMsg msg date).has fCseq = msg.has fCseq ∧
      (playMsg msg date).has fContlen = msg.has fContlen ∧
      (playMsg msg date).has fData = msg.has fData := by
  have dateBit : fDate = BitVec.twoPow 32 7 := rfl
  have sessionBit : fSession = BitVec.twoPow 32 2 := rfl
  have bit : ∀ bit, bit < 32 → (playMsg msg date).has (BitVec.twoPow 32 bit) =
      ((msg.has (BitVec.twoPow 32 bit) || decide (7 = bit)) ^^ decide (2 = bit)) := by
    intro bit bound
    rw [has_bit _ bound, has_bit _ bound]
    simp only [playMsg, dateBit, sessionBit, BitVec.getLsbD_xor, BitVec.getLsbD_or,
      BitVec.getLsbD_twoPow]
    simp
  refine ⟨?_, ?_, ?_, ?_, ?_⟩
  · exact (bit 7 (by omega)).trans (by simp)
  · exact (bit 2 (by omega)).trans (by simp [sessionBit])
  · exact (bit 1 (by omega)).trans (by simp; rfl)
  · exact (bit 3 (by omega)).trans (by simp; rfl)
  · exact (bit 8 (by omega)).trans (by simp; rfl)

theorem numbers_of_fields {msg : RTSPMsg} {fields : BitVec 32} (known : msg.fields = fields)
    (header : NumberHeader) :
    msg.numbers header =
      if fields &&& header.field ≠ 0 then [decimal (header.value msg)] else [] := by
  rw [RTSPMsg.numbers, ← known]
  exact if_congr has_iff rfl rfl

/-- The numbers in the reply to a DESCRIBE. -/
theorem describeMsg_numbers (client : Client) (date : List UInt8) (header : NumberHeader) :
    (describeMsg client date).numbers header =
      match header with
      | .cseq => [decimal client.cseq]
      | .session => []
      | .contlen => [decimal sdp.length] := by
  rw [numbers_of_fields (show _ = fCseq ||| fDate ||| fConttype ||| fContlen ||| fData from rfl)]
  cases header with
  | cseq => exact if_pos (by decide)
  | session => exact if_neg (by decide)
  | contlen => exact if_pos (by decide)

/-- The numbers in the reply to a SETUP: those of the request, but for the session. -/
theorem setupMsg_numbers (msg : RTSPMsg) (session : Int) (rtp rtcp : Nat) (header : NumberHeader) :
    (setupMsg msg session rtp rtcp).numbers header =
      if header = .session then [decimal session] else msg.numbers header := by
  have other : ∀ field, fSession &&& field = 0 →
      (setupMsg msg session rtp rtcp).has field = msg.has field := fun field apart =>
    has_set_other rfl apart
  cases header with
  | cseq => simp only [RTSPMsg.numbers, NumberHeader.field, other fCseq rfl]; rfl
  | session =>
      have set : (setupMsg msg session rtp rtcp).has fSession = true :=
        @has_set_self msg _ fSession rfl (by decide)
      simp only [RTSPMsg.numbers, NumberHeader.field, set, if_true]
      rfl
  | contlen => simp only [RTSPMsg.numbers, NumberHeader.field, other fContlen rfl]; rfl

/-- The numbers in the reply to a PLAY: the session is there exactly when the request had none. -/
theorem playMsg_numbers (msg : RTSPMsg) (date : List UInt8) (header : NumberHeader) :
    (playMsg msg date).numbers header =
      if header = .session then (if msg.has fSession then [] else [decimal msg.session])
      else msg.numbers header := by
  obtain ⟨-, session, cseq, contlen, -⟩ := has_play msg date
  cases header with
  | cseq => simp only [RTSPMsg.numbers, NumberHeader.field, cseq]; rfl
  | session =>
      simp only [RTSPMsg.numbers, NumberHeader.field, session, if_true]
      cases msg.has fSession <;> rfl
  | contlen => simp only [RTSPMsg.numbers, NumberHeader.field, contlen]; rfl

/-- The numbers in the reply to a TEARDOWN: always the same two. -/
theorem teardownMsg_numbers (msg : RTSPMsg) (header : NumberHeader) :
    (teardownMsg msg).numbers header =
      match header with
      | .cseq => [decimal msg.cseq]
      | .session => [decimal msg.session]
      | .contlen => [] := by
  rw [numbers_of_fields (show _ = fSession ||| fCseq from rfl)]
  cases header with
  | cseq => exact if_pos (by decide)
  | session => exact if_pos (by decide)
  | contlen => exact if_neg (by decide)

section Received

variable {msg : RTSPMsg}

theorem Word.no_cr {bytes : List UInt8} (word : Word bytes) : 13 ∉ bytes := by
  intro member
  have plain := (word.plain 13 member).1
  cases plain

theorem RTSPMsg.Received.lined (received : msg.Received) : msg.Lined where
  date dated := absurd (received.undated.symm.trans dated) Bool.false_ne_true
  contenttype := received.contenttype.no_cr
  transport := received.transport.no_cr
  range := received.range.no_cr

theorem describeMsg_lined (client : Client) {date : List UInt8} (dated : 13 ∉ date) :
    (describeMsg client date).Lined where
  date _ := dated
  contenttype := of_decide_eq_true rfl
  transport := List.not_mem_nil
  range := List.not_mem_nil

theorem RTSPMsg.Received.setup_lined (received : msg.Received) (session : Int) (rtp rtcp : Nat) :
    (setupMsg msg session rtp rtcp).Lined where
  date dated := by
    rw [@has_set_other msg _ fSession fDate rfl rfl, received.undated] at dated
    cases dated
  contenttype := received.contenttype.no_cr
  transport := by
    have literals : 13 ∉ ascii ";server_port=" ∧ 13 ∉ ascii "-" := by decide
    simp only [setupMsg, setupTransport, List.mem_append, not_or]
    exact ⟨⟨⟨⟨received.transport.no_cr, literals.1⟩, decimal_no_cr _⟩, literals.2⟩, decimal_no_cr _⟩
  range := received.range.no_cr

theorem RTSPMsg.Received.play_lined (received : msg.Received) {date : List UInt8}
    (dated : 13 ∉ date) : (playMsg msg date).Lined where
  date _ := dated
  contenttype := received.contenttype.no_cr
  transport := received.transport.no_cr
  range := received.range.no_cr

theorem RTSPMsg.Received.teardown_lined (received : msg.Received) : (teardownMsg msg).Lined where
  date dated := by
    have clear : (fSession ||| fCseq) &&& fDate = 0 := rfl
    exact absurd clear (has_iff.mp dated)
  contenttype := received.contenttype.no_cr
  transport := received.transport.no_cr
  range := received.range.no_cr

end Received

end Http2Rtsp.Message
