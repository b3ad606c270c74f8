import Http2Rtsp.Message.Answers

/-!
# The replies in the buffer

`write_rtsp` as it works on the buffer: a pointer moves over a zeroed array of
`BUFSIZE` bytes, behind what `sprintf` has stored, and the value returned is how
far it has come. The buffer holds the text of `writeRtsp`, and the value is its
length. A reply is consistent when it is one header block and a body of the
length the block announces.
-/

namespace Http2Rtsp.Message

open Http2Rtsp.Std

/-- `strlen`. -/
def strlen (bytes : List UInt8) : Except Undefined Nat :=
  if 0 ∈ bytes then .ok (bytes.takeWhile (· ≠ 0)).length else .error .unterminated

/-- The buffer and the pointer `temp` into it. -/
structure Writer where
  buffer : List UInt8
  temp : Nat

namespace Writer

/-- `memset`. -/
def cleared : Writer := ⟨List.replicate bufSize 0, 0⟩

/-- `sprintf(temp, …)`: the text and a NUL behind it. -/
def sprintf (w : Writer) (text : List UInt8) : Except Undefined Writer :=
  if w.temp + text.length < w.buffer.length then
    .ok { w with
      buffer := w.buffer.take w.temp ++ text ++ 0 :: w.buffer.drop (w.temp + text.length + 1) }
  else .error .overflow

/-- `temp += strlen(temp)`. -/
def advance (w : Writer) : Except Undefined Writer := do
  let length ← strlen (w.buffer.drop w.temp)
  .ok { w with temp := w.temp + length }

/-- What is written for a field, if its bit is set. -/
def field (w : Writer) (set : Bool) (text : List UInt8) : Except Undefined Writer :=
  if set then do (← w.sprintf text).advance else .ok w

end Writer

/-- `write_rtsp`: the buffer behind it, and how far the pointer has come. -/
def writeRtspTo (msg : RTSPMsg) : Except Undefined Writer := do
  let w ← Writer.cleared.field true (ascii "RTSP/1.0 200 OK\r\n")
  let w ← w.field (msg.has fCseq) (headerLine "CSeq: " (decimal msg.cseq))
  let w ← w.field (msg.has fDate) (headerLine "Date: " msg.date)
  let w ← w.field (msg.has fSession) (headerLine "Session: " (decimal msg.session))
  let w ← w.field (msg.has fConttype) (headerLine "Content-Type: " msg.contenttype)
  let w ← w.field (msg.has fContlen) (headerLine "Content-Length: " (decimal msg.contentlen))
  let w ← w.field (msg.has fTransport) (headerLine "Transport: " msg.transport)
  let w ← w.field (msg.has fRange) (headerLine "Range: " msg.range)
  let w ← w.sprintf crlf
  { w with temp := w.temp + 2 }.field (msg.has fData) msg.data

/-- The builders of replies. -/
inductive Builder where
  | options
  | describe
  | setup
  | play
  | teardown

/-- The other arguments of a builder: `rand()`, the date and the ports. -/
structure BuilderArgs where
  rand : Nat
  date : List UInt8
  rtp : Nat
  rtcp : Nat

/-- What a builder leaves in the buffer, and the value it returns. -/
def Builder.fill (builder : Builder) (msg : RTSPMsg) (client : Client) (args : BuilderArgs) :
    Except Undefined (List UInt8 × Nat) := do
  match builder with
  | .options =>
      let w ← writeRtspTo msg
      let w ← { w with temp := w.temp - 2 }.sprintf
        (ascii "Public: DESCRIBE, SETUP, PLAY, TEARDOWN\r\n\r\n")
      let length ← strlen w.buffer
      .ok (w.buffer, length)
  | .describe =>
      let w ← writeRtspTo (describeMsg client args.date)
      .ok (w.buffer, w.temp)
  | .setup =>
      if (setupTransport msg args.rtp args.rtcp).length < fieldLen then
        let w ← writeRtspTo (setupMsg msg (args.rand % 1000000 : Nat) args.rtp args.rtcp)
        .ok (w.buffer, w.temp)
      else .error .overflow
  | .play =>
      let w ← writeRtspTo (playMsg msg args.date)
      .ok (w.buffer, w.temp)
  | .teardown =>
      let w ← writeRtspTo (teardownMsg msg)
      .ok (w.buffer, w.temp)

/-! ## What is in the buffer -/

/-- The text is in the buffer, with zeros behind it, and the pointer stands at its end. -/
structure Writer.Holds (w : Writer) (text : List UInt8) : Prop where
  buffer : w.buffer = text ++ List.replicate (bufSize - text.length) 0
  temp : w.temp = text.length
  fits : text.length < bufSize
  noNul : 0 ∉ text

/-- The step ends with the text in the buffer. -/
def Writes (result : Except Undefined Writer) (text : List UInt8) : Prop :=
  ∃ w, result = .ok w ∧ w.Holds text

theorem Writes.bind {result : Except Undefined Writer} {next : Writer → Except Undefined Writer}
    {text text' : List UInt8} (first : Writes result text)
    (second : ∀ w : Writer, w.Holds text → Writes (next w) text') : Writes (result >>= next) text' := by
  obtain ⟨w, rfl, holds⟩ := first
  exact second w holds

theorem Writer.cleared_holds : Writer.cleared.Holds [] where
  buffer := rfl
  temp := rfl
  fits := by decide
  noNul := List.not_mem_nil

/-- A text with zeros behind it ends at the first of them. -/
theorem takeWhile_zeros {text : List UInt8} (noNul : 0 ∉ text) (n : Nat) :
    (text ++ List.replicate n 0).takeWhile (· ≠ 0) = text := by
  have nonzero : ∀ byte ∈ text, decide (byte ≠ 0) = true := by
    intro byte member
    exact decide_eq_true fun zero => noNul (zero ▸ member)
  rw [List.takeWhile_append_of_pos nonzero]
  cases n with
  | zero => simp
  | succ n => simp [List.replicate_succ]

theorem strlen_zeros {text : List UInt8} {n : Nat} (noNul : 0 ∉ text) (positive : 0 < n) :
    strlen (text ++ List.replicate n 0) = .ok text.length := by
  have ended : (0 : UInt8) ∈ text ++ List.replicate n 0 :=
    List.mem_append_right _ (List.mem_replicate.mpr ⟨by omega, rfl⟩)
  rw [strlen, if_pos ended, takeWhile_zeros noNul]

/-- What `sprintf` stores covers what was behind the pointer, and the rest is still zero. -/
theorem Writer.sprintf_over {w : Writer} {front covered piece : List UInt8} {n : Nat}
    (buffer : w.buffer = front ++ covered ++ List.replicate n 0) (temp : w.temp = front.length)
    (covers : covered.length ≤ piece.length) (size : (front ++ covered).length + n = bufSize)
    (fits : front.length + piece.length < bufSize) :
    w.sprintf piece = .ok ⟨front ++ piece ++
      List.replicate (bufSize - (front ++ piece).length) 0, w.temp⟩ := by
  rw [List.length_append] at size
  have room : w.temp + piece.length < w.buffer.length := by
    rw [buffer, temp]
    simp only [List.length_append, List.length_replicate]
    omega
  have before : w.buffer.take w.temp = front := by
    rw [buffer, temp, List.append_assoc, List.take_left]
  have behind : w.buffer.drop (w.temp + piece.length + 1) =
      List.replicate (bufSize - (front ++ piece).length - 1) 0 := by
    have past : w.temp + piece.length + 1 =
        (front ++ covered).length + (piece.length - covered.length + 1) := by
      rw [temp, List.length_append]
      omega
    rw [buffer, past, List.drop_length_add_append, List.drop_replicate]
    congr 1
    rw [List.length_append]
    omega
  have zeros : (0 : UInt8) :: List.replicate (bufSize - (front ++ piece).length - 1) 0 =
      List.replicate (bufSize - (front ++ piece).length) 0 := by
    rw [← List.replicate_succ]
    congr 1
    rw [List.length_append]
    omega
  rw [Writer.sprintf, if_pos room, before, behind, zeros]

/-- What is stored behind the text. -/
theorem Writer.Holds.sprintf {w : Writer} {text piece : List UInt8} (holds : w.Holds text)
    (fits : (text ++ piece).length < bufSize) :
    w.sprintf piece = .ok ⟨text ++ piece ++
      List.replicate (bufSize - (text ++ piece).length) 0, w.temp⟩ := by
  have size : (text ++ []).length + (bufSize - text.length) = bufSize := by
    have := holds.fits
    rw [List.append_nil]
    omega
  exact Writer.sprintf_over (by rw [holds.buffer, List.append_nil]) holds.temp (Nat.zero_le _) size
    (by rwa [List.length_append] at fits)

/-- A field is written behind the text. -/
theorem Writer.Holds.field {w : Writer} {text piece : List UInt8} {set : Bool} (holds : w.Holds text)
    (noNul : set = true → 0 ∉ piece)
    (fits : (text ++ if set then piece else []).length < bufSize) :
    Writes (w.field set piece) (text ++ if set then piece else []) := by
  cases set with
  | false =>
      refine ⟨w, rfl, ?_⟩
      simpa using holds
  | true =>
      simp only [if_true] at fits ⊢
      have free := noNul rfl
      have stored := holds.sprintf fits
      have left : (text ++ piece ++ List.replicate (bufSize - (text ++ piece).length) 0).drop w.temp =
          piece ++ List.replicate (bufSize - (text ++ piece).length) 0 := by
        rw [holds.temp, List.append_assoc, List.drop_left]
      have positive : 0 < bufSize - (text ++ piece).length := by omega
      have measured := strlen_zeros free positive
      refine ⟨⟨_, w.temp + piece.length⟩, ?_, ⟨rfl, ?_, fits, ?_⟩⟩
      · simp only [Writer.field, if_true, stored, bind, Except.bind, Writer.advance, left, measured]
      · rw [holds.temp, List.length_append]
      · intro member
        exact (List.mem_append.mp member).elim holds.noNul free

/-- The empty line is written with a pointer which is moved by hand. -/
theorem Writer.Holds.blank {w : Writer} {text : List UInt8} (holds : w.Holds text)
    (fits : (text ++ crlf).length < bufSize) :
    ∃ w' : Writer, w.sprintf crlf = .ok w' ∧
      Writer.Holds { w' with temp := w'.temp + 2 } (text ++ crlf) := by
  refine ⟨_, holds.sprintf fits, ⟨rfl, ?_, fits, ?_⟩⟩
  · rw [List.length_append, ← holds.temp]
    rfl
  · have lineEnd : (0 : UInt8) ∉ crlf := by decide
    intro member
    exact (List.mem_append.mp member).elim holds.noNul lineEnd

/-! ## The writer -/

/-- A string which an array of this size holds. -/
structure Stored (size : Nat) (bytes : List UInt8) : Prop where
  fits : bytes.length < size
  noNul : 0 ∉ bytes

theorem Word.stored {bytes : List UInt8} (word : Word bytes) : Stored fieldLen bytes :=
  ⟨word.fits, fun member => (word.plain 0 member).2 rfl⟩

/-- The values of a message are those of its C type. -/
structure RTSPMsg.Stored (msg : RTSPMsg) : Prop where
  numbers : ∀ header : NumberHeader, IsInt (header.value msg)
  date : msg.has fDate = true → Message.Stored fieldLen msg.date
  contenttype : Message.Stored fieldLen msg.contenttype
  transport : Message.Stored fieldLen msg.transport
  range : Message.Stored fieldLen msg.range
  data : msg.has fData = true → Message.Stored urlSize msg.data

/-- What is written for a field is short. -/
theorem length_field {set : Bool} {name : String} {value : List UInt8} {bound : Nat}
    (short : set = true → (headerLine name value).length ≤ bound) :
    (if set = true then headerLine name value else []).length ≤ bound := by
  split
  · rename_i set
    exact short set
  · exact Nat.zero_le _

/-- A reply fits the buffer, and leaves room for a line more. -/
theorem RTSPMsg.Stored.length_lt {msg : RTSPMsg} (stored : msg.Stored) :
    (writeRtsp msg).length + 100 < bufSize := by
  have number : ∀ (header : NumberHeader) (name : String), (ascii name).length ≤ 16 →
      (headerLine name (decimal (header.value msg))).length ≤ 29 := by
    intro header name short
    have digits := length_decimal (stored.numbers header)
    have two : crlf.length = 2 := rfl
    rw [headerLine, List.length_append, List.length_append]
    omega
  have string : ∀ (name : String) (value : List UInt8), (ascii name).length ≤ 16 →
      value.length < fieldLen → (headerLine name value).length ≤ 118 := by
    intro name value short fits
    have two : crlf.length = 2 := rfl
    have size : fieldLen = 100 := rfl
    rw [headerLine, List.length_append, List.length_append]
    omega
  have status : (ascii "RTSP/1.0 200 OK\r\n").length = 17 := rfl
  have cseq := length_field fun _ : msg.has fCseq = true => number .cseq "CSeq: " (by decide)
  have date := length_field fun set : msg.has fDate = true =>
    string "Date: " msg.date (by decide) (stored.date set).fits
  have session := length_field fun _ : msg.has fSession = true =>
    number .session "Session: " (by decide)
  have conttype := length_field fun _ : msg.has fConttype = true =>
    string "Content-Type: " msg.contenttype (by decide) stored.contenttype.fits
  have contlen := length_field fun _ : msg.has fContlen = true =>
    number .contlen "Content-Length: " (by decide)
  have transport := length_field fun _ : msg.has fTransport = true =>
    string "Transport: " msg.transport (by decide) stored.transport.fits
  have range := length_field fun _ : msg.has fRange = true =>
    string "Range: " msg.range (by decide) stored.range.fits
  have data : (if msg.has fData = true then msg.data else []).length ≤ 500 := by
    have size : urlSize = 500 := rfl
    split
    · rename_i set
      have := (stored.data set).fits
      omega
    · exact Nat.zero_le _
  have two : crlf.length = 2 := rfl
  have size : bufSize = 64000 := rfl
  simp only [NumberHeader.value] at cseq session contlen
  simp only [writeRtsp, List.length_append, status, two]
  omega

theorem headerLine_noNul {name : String} {value : List UInt8} (literal : 0 ∉ ascii name)
    (noNul : 0 ∉ value) : 0 ∉ headerLine name value := by
  have lineEnd : (0 : UInt8) ∉ crlf := by decide
  simp only [headerLine, List.mem_append, not_or]
  exact ⟨⟨literal, noNul⟩, lineEnd⟩

/-- The pointer over the buffer writes the text. -/
theorem writeRtspTo_writes {msg : RTSPMsg} (stored : msg.Stored) :
    Writes (writeRtspTo msg) (writeRtsp msg) := by
  have room := stored.length_lt
  simp only [writeRtsp, List.length_append] at room
  have line : ∀ {set : Bool} {name : String} {value : List UInt8}, 0 ∉ ascii name →
      (set = true → 0 ∉ value) → set = true → 0 ∉ headerLine name value :=
    fun literal noNul set => headerLine_noNul literal (noNul set)
  have status : (0 : UInt8) ∉ ascii "RTSP/1.0 200 OK\r\n" := by decide
  have start : Writes (Writer.cleared.field true (ascii "RTSP/1.0 200 OK\r\n"))
      (ascii "RTSP/1.0 200 OK\r\n") :=
    Writer.cleared_holds.field (fun _ => status) (by simp; omega)
  unfold writeRtspTo
  refine start.bind fun w holds => ?_
  refine (holds.field (line (by decide) fun _ => decimal_noNul _) ?_).bind fun w holds => ?_
  · simp only [List.length_append]
    omega
  refine (holds.field (line (by decide) fun set => (stored.date set).noNul) ?_).bind fun w holds => ?_
  · simp only [List.length_append]
    omega
  refine (holds.field (line (by decide) fun _ => decimal_noNul _) ?_).bind fun w holds => ?_
  · simp only [List.length_append]
    omega
  refine (holds.field (line (by decide) fun _ => stored.contenttype.noNul) ?_).bind fun w holds => ?_
  · simp only [List.length_append]
    omega
  refine (holds.field (line (by decide) fun _ => decimal_noNul _) ?_).bind fun w holds => ?_
  · simp only [List.length_append]
    omega
  refine (holds.field (line (by decide) fun _ => stored.transport.noNul) ?_).bind fun w holds => ?_
  · simp only [List.length_append]
    omega
  refine (holds.field (line (by decide) fun _ => stored.range.noNul) ?_).bind fun w holds => ?_
  · simp only [List.length_append]
    omega
  obtain ⟨w', stored', holds⟩ := holds.blank (by simp only [List.length_append]; omega)
  rw [stored']
  refine holds.field (fun set => (stored.data set).noNul) ?_
  simp only [List.length_append]
  omega

/-! ## The builders -/

/-- The text is what the buffer holds, and its length is what is returned. -/
def Leaves (result : Except Undefined (List UInt8 × Nat)) (text : List UInt8) : Prop :=
  ∃ buffer, result = .ok (buffer, text.length) ∧ strlen buffer = .ok text.length ∧
    buffer.takeWhile (· ≠ 0) = text

theorem Writer.Holds.string {w : Writer} {text : List UInt8} (holds : w.Holds text) :
    strlen w.buffer = .ok text.length ∧ w.buffer.takeWhile (· ≠ 0) = text := by
  have := holds.fits
  rw [holds.buffer]
  exact ⟨strlen_zeros holds.noNul (by omega), takeWhile_zeros holds.noNul _⟩

/-- What the builders which only write leave. -/
theorem Writes.leaves {result : Except Undefined Writer} {text : List UInt8}
    (writes : Writes result text) : Leaves (do let w ← result; .ok (w.buffer, w.temp)) text := by
  obtain ⟨w, rfl, holds⟩ := writes
  exact ⟨w.buffer, by rw [← holds.temp]; rfl, holds.string⟩

/-- The last line end is overwritten by a longer text. -/
theorem Writer.Holds.replace {w : Writer} {front piece : List UInt8} (holds : w.Holds (front ++ crlf))
    (longer : 2 ≤ piece.length) (fits : front.length + piece.length < bufSize) :
    Writer.sprintf { w with temp := w.temp - 2 } piece =
      .ok ⟨front ++ piece ++ List.replicate (bufSize - (front ++ piece).length) 0, w.temp - 2⟩ := by
  have two : crlf.length = 2 := rfl
  have temp := holds.temp
  rw [List.length_append, two] at temp
  have size : (front ++ crlf).length + (bufSize - (front ++ crlf).length) = bufSize := by
    rw [List.length_append, two]
    omega
  have back : w.temp - 2 = front.length := by omega
  exact @Writer.sprintf_over { w with temp := w.temp - 2 } front crlf piece _ holds.buffer back longer
    size fits

/-- An OPTIONS reply: the last line end is overwritten. -/
theorem fill_options {msg : RTSPMsg} (stored : msg.Stored) (bare : msg.has fData = false)
    (client : Client) (args : BuilderArgs) :
    Leaves (Builder.options.fill msg client args) (rtspOptions msg client).2 := by
  obtain ⟨w, written, holds⟩ := writeRtspTo_writes stored
  obtain ⟨front, text⟩ : ∃ front, writeRtsp msg = front ++ crlf := by
    rw [writeRtsp_eq]
    simp [replyBody, bare]
  have two : crlf.length = 2 := rfl
  have added : (ascii "Public: DESCRIBE, SETUP, PLAY, TEARDOWN\r\n\r\n").length = 43 := rfl
  have room := stored.length_lt
  rw [text, List.length_append, two] at room
  rw [text] at holds
  have replaced := @Writer.Holds.replace w front
    (ascii "Public: DESCRIBE, SETUP, PLAY, TEARDOWN\r\n\r\n") holds (by rw [added]; omega)
    (by rw [added]; omega)
  have reply : (rtspOptions msg client).2 =
      front ++ ascii "Public: DESCRIBE, SETUP, PLAY, TEARDOWN\r\n\r\n" := by
    rw [rtspOptions, text]
    simp only [List.length_append, two, Nat.add_sub_cancel, List.take_left]
  have free : (0 : UInt8) ∉ (rtspOptions msg client).2 := by
    have literal : (0 : UInt8) ∉ ascii "Public: DESCRIBE, SETUP, PLAY, TEARDOWN\r\n\r\n" := by decide
    rw [reply, List.mem_append, not_or]
    exact ⟨fun member => holds.noNul (List.mem_append_left _ member), literal⟩
  rw [← reply] at replaced
  have positive : 0 < bufSize - (rtspOptions msg client).2.length := by
    rw [reply, List.length_append, added]
    omega
  have measured := strlen_zeros free positive
  have string := takeWhile_zeros free (bufSize - (rtspOptions msg client).2.length)
  generalize (rtspOptions msg client).2 ++
    List.replicate (bufSize - (rtspOptions msg client).2.length) 0 = buffer
    at replaced measured string
  have filled : Builder.options.fill msg client args =
      (writeRtspTo msg).bind fun w =>
        (Writer.sprintf { w with temp := w.temp - 2 }
          (ascii "Public: DESCRIBE, SETUP, PLAY, TEARDOWN\r\n\r\n")).bind fun w =>
            (strlen w.buffer).bind fun length => .ok (w.buffer, length) := rfl
  refine ⟨buffer, ?_, measured, string⟩
  rw [filled, written]
  simp only [Except.bind, replaced, measured]

end Http2Rtsp.Message
