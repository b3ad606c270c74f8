import Http2Rtsp.Message.Rtsp
import Http2Rtsp.Std.Decimal
import Http2Rtsp.Std.Lines

/-!
# The headers of a request

`parse_rtsp` read line by line. A text with a blank line is a header block and
what follows it, and the parser makes of it what its headers make one after the
other. What is known of every message parsed is what each header keeps.
-/

namespace Http2Rtsp.Message

open Http2Rtsp.Std

/-! ## Bits -/

theorem has_iff {msg : RTSPMsg} {field : BitVec 32} :
    msg.has field = true ↔ msg.fields &&& field ≠ 0 := by
  simp [RTSPMsg.has]

/-- A set bit is set, and others stay as they were. -/
theorem or_and_ne_zero {fields set field : BitVec 32} :
    (fields ||| set) &&& field ≠ 0 ↔ fields &&& field ≠ 0 ∨ set &&& field ≠ 0 := by
  rw [BitVec.and_or_distrib_right, ne_eq, ← not_and_or, not_iff_not]
  exact BitVec.or_eq_zero_iff

/-- The fields of the message with one more bit. -/
theorem has_set {msg after : RTSPMsg} {set : BitVec 32} (fields : after.fields = msg.fields ||| set)
    (field : BitVec 32) :
    after.has field = true ↔ msg.has field = true ∨ set &&& field ≠ 0 := by
  rw [has_iff, has_iff, fields, or_and_ne_zero]

theorem has_set_self {msg after : RTSPMsg} {field : BitVec 32}
    (fields : after.fields = msg.fields ||| field) (bit : field ≠ 0) : after.has field = true := by
  rw [has_set fields]
  exact Or.inr (by rwa [BitVec.and_self])

theorem has_set_other {msg after : RTSPMsg} {set field : BitVec 32}
    (fields : after.fields = msg.fields ||| set) (apart : set &&& field = 0) :
    after.has field = msg.has field := by
  apply Bool.eq_iff_iff.mpr
  rw [has_set fields, apart]
  simp

/-! ## One header -/

/-- The bit of the header a line begins with. -/
def headerField (temp : List UInt8) : BitVec 32 :=
  if startsWith (ascii "CSeq: ") temp then fCseq
  else if startsWith (ascii "Session: ") temp then fSession
  else if startsWith (ascii "Content-Length: ") temp then fContlen
  else if startsWith (ascii "Content-Type: ") temp then fConttype
  else if startsWith (ascii "Transport: ") temp then fTransport
  else if startsWith (ascii "Range: ") temp then fRange
  else 0

/-- The headers of a number. -/
inductive NumberHeader where
  | cseq
  | session
  | contlen
deriving DecidableEq

namespace NumberHeader

def name : NumberHeader → String
  | .cseq => "CSeq: "
  | .session => "Session: "
  | .contlen => "Content-Length: "

def field : NumberHeader → BitVec 32
  | .cseq => fCseq
  | .session => fSession
  | .contlen => fContlen

def value (msg : RTSPMsg) : NumberHeader → Int
  | .cseq => msg.cseq
  | .session => msg.session
  | .contlen => msg.contentlen

end NumberHeader

/-- The array after a `%s` with this input. -/
def StoredFrom (text old stored : List UInt8) : Prop :=
  stored = old ∨ (scanWord text = some stored ∧ stored.length < fieldLen)

theorem storeString_cases {text old stored : List UInt8}
    (ok : storeString fieldLen old (scanWord text) = .ok stored) : StoredFrom text old stored := by
  unfold storeString at ok
  split at ok
  · cases ok
    exact Or.inl rfl
  · rename_i word scanned
    split at ok
    · rename_i fits
      cases ok
      exact Or.inr ⟨scanned, fits⟩
    · cases ok

/-- What one line does to a message. -/
structure HeaderEffect (temp : List UInt8) (msg after : RTSPMsg) : Prop where
  fields : after.fields = msg.fields ||| headerField temp
  type : after.type = msg.type
  numbers : ∀ header : NumberHeader, header.value after =
    if startsWith (ascii header.name) temp then
      (scanInt (temp.drop header.name.length)).getD (header.value msg)
    else header.value msg
  contenttype : StoredFrom (temp.drop 14) msg.contenttype after.contenttype
  transport : StoredFrom (temp.drop 11) msg.transport after.transport
  range : StoredFrom (temp.drop 7) msg.range after.range

theorem scanPorts_eq {msg after : RTSPMsg} {text : List UInt8} (ok : scanPorts msg text = .ok after) :
    ∃ rtp rtcp, after = { msg with clirtpport := rtp, clirtcpport := rtcp } := by
  unfold scanPorts at ok
  split at ok
  · cases ok
    exact ⟨_, _, rfl⟩
  · simp only [bind, Except.bind] at ok
    split at ok
    · cases ok
    · split at ok
      · cases ok
      · cases ok
        exact ⟨_, _, rfl⟩

/-- A line which is no header of a number. -/
theorem numbers_unchanged {temp : List UInt8} {msg after : RTSPMsg}
    (other : ∀ header : NumberHeader, startsWith (ascii header.name) temp = false)
    (cseq : after.cseq = msg.cseq) (session : after.session = msg.session)
    (contentlen : after.contentlen = msg.contentlen) (header : NumberHeader) :
    header.value after = if startsWith (ascii header.name) temp then
      (scanInt (temp.drop header.name.length)).getD (header.value msg)
    else header.value msg := by
  rw [other header, if_neg Bool.false_ne_true]
  cases header with
  | cseq => exact cseq
  | session => exact session
  | contlen => exact contentlen

/-- The line of a number sets its bit. -/
theorem headerField_self {header : NumberHeader} {temp : List UInt8}
    (begins : startsWith (ascii header.name) temp = true) : headerField temp = header.field := by
  have earlier : ∀ first : String, startsWith (ascii header.name) (ascii first) = false ∧
      startsWith (ascii first) (ascii header.name) = false →
      ¬ startsWith (ascii first) temp = true := fun first apart =>
    Bool.eq_false_iff.mp (startsWith_apart begins apart)
  cases header with
  | cseq => exact if_pos begins
  | session =>
      rw [headerField, if_neg (earlier "CSeq: " ⟨rfl, rfl⟩)]
      exact if_pos begins
  | contlen =>
      rw [headerField, if_neg (earlier "CSeq: " ⟨rfl, rfl⟩), if_neg (earlier "Session: " ⟨rfl, rfl⟩)]
      exact if_pos begins

/-- A line begins with the name of one number at most. -/
theorem NumberHeader.apart {header other : NumberHeader} {temp : List UInt8}
    (begins : startsWith (ascii header.name) temp = true) (distinct : other ≠ header) :
    startsWith (ascii other.name) temp = false := by
  cases header <;> cases other <;>
    first
    | exact absurd rfl distinct
    | exact startsWith_apart begins ⟨rfl, rfl⟩

/-- The line of a number. -/
theorem rtspHeader_number_effect {header : NumberHeader} {msg after : RTSPMsg} {temp : List UInt8}
    (begins : startsWith (ascii header.name) temp = true) (ok : rtspHeader msg temp = .ok after) :
    HeaderEffect temp msg after := by
  have apart : ∀ other : NumberHeader, other ≠ header →
      ¬ startsWith (ascii other.name) temp = true := fun other distinct =>
    Bool.eq_false_iff.mp (NumberHeader.apart begins distinct)
  have field := headerField_self begins
  have numbers : header.value after = (scanInt (temp.drop header.name.length)).getD (header.value msg) →
      (∀ other : NumberHeader, other ≠ header → other.value after = other.value msg) →
      ∀ other : NumberHeader, other.value after =
        if startsWith (ascii other.name) temp then
          (scanInt (temp.drop other.name.length)).getD (other.value msg)
        else other.value msg := by
    intro own others other
    by_cases same : other = header
    · rw [same, if_pos begins, own]
    · rw [if_neg (apart other same), others other same]
  cases header with
  | cseq =>
      rw [rtspHeader, if_pos (show startsWith (ascii "CSeq: ") temp = true from begins)] at ok
      cases ok
      refine ⟨by rw [field]; rfl, rfl, numbers rfl fun other distinct => ?_, .inl rfl, .inl rfl, .inl rfl⟩
      cases other with
      | cseq => exact absurd rfl distinct
      | session => rfl
      | contlen => rfl
  | session =>
      have cseq : ¬ startsWith (ascii "CSeq: ") temp = true := apart .cseq NumberHeader.noConfusion
      rw [rtspHeader, if_neg cseq,
        if_pos (show startsWith (ascii "Session: ") temp = true from begins)] at ok
      cases ok
      refine ⟨by rw [field]; rfl, rfl, numbers rfl fun other distinct => ?_, .inl rfl, .inl rfl, .inl rfl⟩
      cases other with
      | cseq => rfl
      | session => exact absurd rfl distinct
      | contlen => rfl
  | contlen =>
      have cseq : ¬ startsWith (ascii "CSeq: ") temp = true := apart .cseq NumberHeader.noConfusion
      have session : ¬ startsWith (ascii "Session: ") temp = true :=
        apart .session NumberHeader.noConfusion
      rw [rtspHeader, if_neg cseq, if_neg session,
        if_pos (show startsWith (ascii "Content-Length: ") temp = true from begins)] at ok
      cases ok
      refine ⟨by rw [field]; rfl, rfl, numbers rfl fun other distinct => ?_, .inl rfl, .inl rfl, .inl rfl⟩
      cases other with
      | cseq => rfl
      | session => rfl
      | contlen => exact absurd rfl distinct

/-- A line which has no number. -/
theorem rtspHeader_string_effect {msg after : RTSPMsg} {temp : List UInt8}
    (other : ∀ header : NumberHeader, startsWith (ascii header.name) temp = false)
    (ok : rtspHeader msg temp = .ok after) : HeaderEffect temp msg after := by
  have cseq : ¬ startsWith (ascii "CSeq: ") temp = true := Bool.eq_false_iff.mp (other .cseq)
  have session : ¬ startsWith (ascii "Session: ") temp = true := Bool.eq_false_iff.mp (other .session)
  have contlen : ¬ startsWith (ascii "Content-Length: ") temp = true :=
    Bool.eq_false_iff.mp (other .contlen)
  rw [rtspHeader, if_neg cseq, if_neg session, if_neg contlen] at ok
  have field : headerField temp =
      if startsWith (ascii "Content-Type: ") temp then fConttype
      else if startsWith (ascii "Transport: ") temp then fTransport
      else if startsWith (ascii "Range: ") temp then fRange
      else 0 := by
    rw [headerField, if_neg cseq, if_neg session, if_neg contlen]
  split at ok
  · rename_i conttype
    rw [if_pos conttype] at field
    cases stored : storeString fieldLen msg.contenttype (scanWord (temp.drop 14)) with
    | error reason => simp [stored, bind, Except.bind] at ok
    | ok contenttype =>
        simp only [stored, bind, Except.bind] at ok
        cases ok
        exact ⟨by rw [field], rfl, numbers_unchanged other rfl rfl rfl, storeString_cases stored,
          .inl rfl, .inl rfl⟩
  · rename_i conttype
    rw [if_neg conttype] at field
    split at ok
    · rename_i transport_
      rw [if_pos transport_] at field
      split at ok
      · cases ok
      · rename_i a found
        cases stored : storeString fieldLen msg.transport (scanWord (temp.drop 11)) with
        | error reason => simp [stored, bind, Except.bind] at ok
        | ok transport =>
            simp only [stored, bind, Except.bind] at ok
            cases ports : scanPorts { msg with transport := transport } (a.drop 12) with
            | error reason => simp [ports] at ok
            | ok next =>
                obtain ⟨rtp, rtcp, rfl⟩ := scanPorts_eq ports
                simp only [ports] at ok
                cases ok
                exact ⟨by rw [field], rfl, numbers_unchanged other rfl rfl rfl, .inl rfl,
                  storeString_cases stored, .inl rfl⟩
    · rename_i transport_
      rw [if_neg transport_] at field
      split at ok
      · rename_i range_
        rw [if_pos range_] at field
        cases stored : storeString fieldLen msg.range (scanWord (temp.drop 7)) with
        | error reason => simp [stored, bind, Except.bind] at ok
        | ok range =>
            simp only [stored, bind, Except.bind] at ok
            cases ok
            exact ⟨by rw [field], rfl, numbers_unchanged other rfl rfl rfl, .inl rfl, .inl rfl,
              storeString_cases stored⟩
      · rename_i range_
        rw [if_neg range_] at field
        cases ok
        exact ⟨by rw [field]; exact BitVec.or_zero.symm, rfl, numbers_unchanged other rfl rfl rfl, .inl rfl,
          .inl rfl, .inl rfl⟩

/-- What a line does. -/
theorem rtspHeader_effect {msg after : RTSPMsg} {temp : List UInt8}
    (ok : rtspHeader msg temp = .ok after) : HeaderEffect temp msg after := by
  by_cases number : ∃ header : NumberHeader, startsWith (ascii header.name) temp = true
  · obtain ⟨header, begins⟩ := number
    exact rtspHeader_number_effect begins ok
  · refine rtspHeader_string_effect (fun header => ?_) ok
    rw [not_exists] at number
    exact Bool.eq_false_iff.mpr (number header)

/-- No other line does. -/
theorem headerField_other {header : NumberHeader} {temp : List UInt8}
    (other : startsWith (ascii header.name) temp = false) : headerField temp &&& header.field = 0 := by
  unfold headerField
  cases header with
  | cseq =>
      rw [if_neg (Bool.eq_false_iff.mp other : ¬ startsWith (ascii "CSeq: ") temp = true)]
      split_ifs <;> rfl
  | session =>
      rw [if_neg (Bool.eq_false_iff.mp other : ¬ startsWith (ascii "Session: ") temp = true)]
      split_ifs <;> rfl
  | contlen =>
      rw [if_neg (Bool.eq_false_iff.mp other : ¬ startsWith (ascii "Content-Length: ") temp = true)]
      split_ifs <;> rfl

/-! ## All headers -/

/-- The headers of the lines, one after the other. -/
def rtspHeaders : List Line → List UInt8 → RTSPMsg → Except Undefined RTSPMsg
  | [], _, msg => .ok msg
  | line :: lines, body, msg => do
      let msg ← rtspHeader msg (framed (line :: lines) body)
      rtspHeaders lines body msg

/-- The loop of the parser does nothing else. -/
theorem rtspLines_framed {lines : List Line} {body : List UInt8} {steps : Nat} {msg : RTSPMsg}
    (enough : lines.length ≤ steps) :
    rtspLines (crlfcrlf ++ body) steps (framed lines body) true msg =
      (rtspHeaders lines body msg).map fun msg => (1, msg) := by
  induction lines generalizing steps msg with
  | nil =>
      cases steps with
      | zero => rfl
      | succ steps =>
          have behind : ¬ (crlfcrlf ++ body).length < (framed [] body).length := by
            simp [framed_nil, crlfcrlf, crlf, ascii]
            omega
          rw [rtspLines, if_neg behind]
          rfl
  | cons line lines ih =>
      obtain ⟨steps, rfl⟩ : ∃ n, steps = n + 1 := ⟨steps - 1, by simp at enough; omega⟩
      have before : (crlfcrlf ++ body).length < (framed (line :: lines) body).length := by
        have positive := List.length_pos_iff.mpr line.nonempty
        simp only [framed, block_cons, crlfcrlf, crlf, ascii, List.length_append, List.length_map]
        simp
        omega
      rw [rtspLines, if_pos before]
      cases header : rtspHeader msg (framed (line :: lines) body) with
      | error reason => simp [rtspHeaders, header, bind, Except.bind, Except.map]
      | ok next =>
          have found : strstr (framed (line :: lines) body) crlf = some (crlf ++ framed lines body) := by
            rw [framed_cons]
            exact strstr_crlf line.whole _
          have behind : (crlf ++ framed lines body).drop 2 = framed lines body := rfl
          simp only [rtspHeaders, header, bind, Except.bind, if_true, found, behind]
          exact ih (Nat.le_of_succ_le_succ enough)

/-- The first line gives the type. -/
theorem rtspLines_typed {stop temp : List UInt8} {steps : Nat} {msg : RTSPMsg}
    (before : stop.length < temp.length) :
    rtspLines stop (steps + 1) temp false msg =
      match requestType temp with
      | none => .ok (-1, msg)
      | some type => rtspLines stop (steps + 1) temp true
          { msg with type := type, fields := msg.fields ||| fType } := by
  cases type : requestType temp with
  | none => simp only [rtspLines, if_pos before, type, Bool.false_eq_true, if_false, Option.map_none]
  | some type =>
      simp only [rtspLines, if_pos before, type, Bool.false_eq_true, if_false, if_true,
        Option.map_some]

/-- The message of the type of a request, before its headers. -/
def typedMsg (type : RtspMsgType) : RTSPMsg :=
  { RTSPMsg.zero with type := type, fields := RTSPMsg.zero.fields ||| fType }

/-- A request which is complete: its first line gives the type, and its headers the rest. -/
theorem parseRtsp_framed {lines : List Line} (some_ : lines ≠ []) (body : List UInt8) :
    parseRtsp (framed lines body) =
      match requestType (framed lines body) with
      | none => .ok (-1, RTSPMsg.zero)
      | some type => (rtspHeaders lines body (typedMsg type)).map fun msg => (1, msg) := by
  have enough := length_framed lines body
  obtain ⟨steps, size⟩ : ∃ n, (framed lines body).length = n + 1 :=
    ⟨(framed lines body).length - 1, by omega⟩
  have before : (crlfcrlf ++ body).length < (framed lines body).length := by
    obtain ⟨line, rest, rfl⟩ := List.exists_cons_of_ne_nil some_
    have positive := List.length_pos_iff.mpr line.nonempty
    simp [framed, crlfcrlf, crlf, ascii]
    omega
  rw [parseRtsp, strstr_blank some_, size]
  simp only [rtspLines_typed before]
  cases requestType (framed lines body) with
  | none => rfl
  | some type => exact rtspLines_framed (by omega)

/-- A text which begins with an empty line is no request. -/
theorem parseRtsp_empty_line (body : List UInt8) :
    ∃ result, parseRtsp (framed [] body) = .ok (result, RTSPMsg.zero) := by
  unfold parseRtsp
  cases strstr (framed [] body) crlfcrlf with
  | none => exact ⟨1, rfl⟩
  | some stop =>
      have size : (framed [] body).length = body.length + 1 + 1 := rfl
      have noType : requestType (framed [] body) = none := rfl
      simp only [size]
      by_cases before : stop.length < (framed [] body).length
      · rw [rtspLines_typed before, noType]
        exact ⟨-1, rfl⟩
      · rw [rtspLines, if_neg before]
        exact ⟨1, rfl⟩

/-- What a message comes from: nothing that was recognised, or the headers of a request. -/
theorem parseRtsp_cases {text : List UInt8} {result : Int} {msg : RTSPMsg}
    (parsed : parseRtsp text = .ok (result, msg)) :
    msg = RTSPMsg.zero ∨ ∃ lines body type, lines ≠ [] ∧ text = framed lines body ∧
      requestType text = some type ∧ rtspHeaders lines body (typedMsg type) = .ok msg := by
  by_cases blank : crlfcrlf <:+: text
  · obtain ⟨lines, body, rfl⟩ := framed_of_blank blank
    by_cases empty : lines = []
    · subst empty
      obtain ⟨result', same⟩ := parseRtsp_empty_line body
      rw [same] at parsed
      cases parsed
      exact Or.inl rfl
    · rw [parseRtsp_framed empty] at parsed
      cases known : requestType (framed lines body) with
      | none =>
          rw [known] at parsed
          cases parsed
          exact Or.inl rfl
      | some type =>
          simp only [known] at parsed
          cases made : rtspHeaders lines body (typedMsg type) with
          | error reason => simp [made, Except.map] at parsed
          | ok after =>
              simp only [made, Except.map, Except.ok.injEq, Prod.mk.injEq] at parsed
              obtain ⟨-, rfl⟩ := parsed
              exact Or.inr ⟨lines, body, type, empty, rfl, rfl, made⟩
  · rw [parseRtsp_of_no_block blank] at parsed
    cases parsed
    exact Or.inl rfl

/-! ## Numbers -/

section Number

variable {header : NumberHeader} {line : Line} {lines : List Line} {body : List UInt8}
  {msg after : RTSPMsg}

/-- The names have no line ends. -/
theorem NumberHeader.free (header : NumberHeader) : 13 ∉ ascii header.name := by
  cases header <;> decide

/-- Whether a line has the header. -/
theorem startsWith_header (header : NumberHeader) (line : Line) (rest : List Line)
    (body : List UInt8) :
    startsWith (ascii header.name) (framed (line :: rest) body) =
      startsWith (ascii header.name) line.bytes := by
  rw [framed_cons]
  exact startsWith_line header.free _ _

/-- A line with another header, or with none. -/
theorem rtspHeader_other (ok : rtspHeader msg (framed (line :: lines) body) = .ok after)
    (other : afterLiteral (ascii header.name) line.bytes = none) :
    after.has header.field = msg.has header.field ∧ header.value after = header.value msg := by
  have effect := rtspHeader_effect ok
  have absent : startsWith (ascii header.name) (framed (line :: lines) body) = false := by
    rw [startsWith_header, ← Bool.not_eq_true]
    intro begins
    rw [afterLiteral, if_pos begins] at other
    cases other
  refine ⟨has_set_other effect.fields (headerField_other absent), ?_⟩
  rw [effect.numbers header, absent, if_neg Bool.false_ne_true]

/-- A line with the header and a number. -/
theorem rtspHeader_number {digits : Digits}
    (ok : rtspHeader msg (framed (line :: lines) body) = .ok after)
    (given : afterLiteral (ascii header.name) line.bytes = some digits.bytes) :
    after.has header.field = true ∧ header.value after = toInt32 (clampLong digits.value) := by
  have effect := rtspHeader_effect ok
  have begins : startsWith (ascii header.name) line.bytes = true := by
    by_contra other
    rw [afterLiteral, if_neg other] at given
    cases given
  rw [afterLiteral, if_pos begins, Option.some_inj] at given
  have here : startsWith (ascii header.name) (framed (line :: lines) body) = true := by
    rw [startsWith_header, begins]
  have bit : header.field ≠ 0 := by cases header <;> decide
  have read : (framed (line :: lines) body).drop header.name.length =
      digits.bytes ++ (crlf ++ framed lines body) := by
    obtain ⟨value, bytes⟩ := startsWith_iff.mp begins
    have size : (ascii header.name).length = header.name.length := by
      rw [ascii, List.length_map, String.length_toList]
    rw [← bytes, List.drop_left] at given
    rw [framed_cons, ← bytes, given, ← size]
    simp
  constructor
  · have fields := effect.fields
    rw [headerField_self here] at fields
    exact has_set_self fields bit
  · rw [effect.numbers header, if_pos here, read,
      scanInt_digits_eq digits (by simp [crlf, ascii, isDigit]), Option.getD_some]

/-- Without a line of its name a number stays as it was. -/
theorem rtspHeaders_lacks (ok : rtspHeaders lines body msg = .ok after)
    (lacks : (lines.map Line.bytes).filterMap (afterLiteral (ascii header.name)) = []) :
    after.has header.field = msg.has header.field ∧ header.value after = header.value msg := by
  induction lines generalizing msg with
  | nil =>
      cases ok
      exact ⟨rfl, rfl⟩
  | cons line lines ih =>
      cases first : rtspHeader msg (framed (line :: lines) body) with
      | error reason => simp [rtspHeaders, first, bind, Except.bind] at ok
      | ok next =>
          simp only [rtspHeaders, first, bind, Except.bind] at ok
          rw [List.map_cons, List.filterMap_cons] at lacks
          split at lacks
          · rename_i other
            obtain ⟨bit, value⟩ := rtspHeader_other first other
            obtain ⟨bits, values⟩ := ih ok lacks
            exact ⟨bits.trans bit, values.trans value⟩
          · cases lacks

/-- With one line of its name and a number, that is the number. -/
theorem rtspHeaders_number {digits : Digits} (ok : rtspHeaders lines body msg = .ok after)
    (given : (lines.map Line.bytes).filterMap (afterLiteral (ascii header.name)) = [digits.bytes]) :
    after.has header.field = true ∧ header.value after = toInt32 (clampLong digits.value) := by
  induction lines generalizing msg with
  | nil => cases given
  | cons line lines ih =>
      cases first : rtspHeader msg (framed (line :: lines) body) with
      | error reason => simp [rtspHeaders, first, bind, Except.bind] at ok
      | ok next =>
          simp only [rtspHeaders, first, bind, Except.bind] at ok
          rw [List.map_cons, List.filterMap_cons] at given
          split at given
          · exact ih ok given
          · rename_i value here
            obtain ⟨rfl, lacks⟩ := List.cons.inj given
            obtain ⟨bit, read⟩ := rtspHeader_number first here
            obtain ⟨bits, values⟩ := rtspHeaders_lacks ok lacks
            exact ⟨bits.trans bit, values.trans read⟩

end Number

/-- The headers do not change the type. -/
theorem rtspHeaders_type {lines : List Line} {body : List UInt8} {msg after : RTSPMsg}
    (ok : rtspHeaders lines body msg = .ok after) : after.type = msg.type := by
  induction lines generalizing msg with
  | nil =>
      cases ok
      rfl
  | cons line lines ih =>
      cases first : rtspHeader msg (framed (line :: lines) body) with
      | error reason => simp [rtspHeaders, first, bind, Except.bind] at ok
      | ok next =>
          simp only [rtspHeaders, first, bind, Except.bind] at ok
          exact (ih ok).trans (rtspHeader_effect first).type

/-- A complete request whose type is known. -/
theorem parseRtsp_known {lines : List Line} {body : List UInt8} {result : Int} {msg : RTSPMsg}
    {type : RtspMsgType} (some_ : lines ≠ []) (known : requestType (framed lines body) = some type)
    (parsed : parseRtsp (framed lines body) = .ok (result, msg)) :
    rtspHeaders lines body (typedMsg type) = .ok msg := by
  rw [parseRtsp_framed some_, known] at parsed
  dsimp only at parsed
  cases made : rtspHeaders lines body (typedMsg type) with
  | error reason => simp [made, Except.map] at parsed
  | ok after =>
      simp only [made, Except.map, Except.ok.injEq, Prod.mk.injEq] at parsed
      rw [parsed.2]

/-- A request with a header of a number, of a type which is known: the number is in the message. -/
theorem parseRtsp_number {header : NumberHeader} {digits : Digits} {text : List UInt8}
    {result : Int} {msg : RTSPMsg} {type : RtspMsgType} (parsed : parseRtsp text = .ok (result, msg))
    (known : requestType text = some type) (given : headers header.name text = [digits.bytes]) :
    msg.type = type ∧ msg.has header.field = true ∧
      header.value msg = toInt32 (clampLong digits.value) := by
  have member : digits.bytes ∈ headers header.name text := by simp [given]
  obtain ⟨lines, body, rfl, some_⟩ := framed_of_mem_headers member
  have made := parseRtsp_known some_ known parsed
  rw [headers_framed] at given
  exact ⟨rtspHeaders_type made, rtspHeaders_number made given⟩

/-- A request with such a header of a type which is not known is taken for an empty OPTIONS. -/
theorem parseRtsp_unknown {text : List UInt8} {result : Int} {msg : RTSPMsg}
    (parsed : parseRtsp text = .ok (result, msg)) (unknown : requestType text = none) :
    msg = RTSPMsg.zero := by
  rcases parseRtsp_cases parsed with zero | ⟨lines, body, type, -, rfl, known, -⟩
  · exact zero
  · rw [unknown] at known
    cases known

/-- Without a header of a number the message has none. -/
theorem parseRtsp_lacks {header : NumberHeader} {text : List UInt8} {result : Int} {msg : RTSPMsg}
    (parsed : parseRtsp text = .ok (result, msg)) (lacks : headers header.name text = []) :
    msg.has header.field = false ∧ header.value msg = 0 := by
  have start : ∀ type, (typedMsg type).has header.field = false ∧
      header.value (typedMsg type) = 0 := by
    intro type
    have same := fun field => @has_set_other RTSPMsg.zero (typedMsg type) fType field rfl
    cases header with
    | cseq => exact ⟨same fCseq rfl, rfl⟩
    | session => exact ⟨same fSession rfl, rfl⟩
    | contlen => exact ⟨same fContlen rfl, rfl⟩
  rcases parseRtsp_cases parsed with rfl | ⟨lines, body, type, -, rfl, -, made⟩
  · cases header <;> exact ⟨rfl, rfl⟩
  · rw [headers_framed] at lacks
    obtain ⟨bit, value⟩ := rtspHeaders_lacks made lacks
    exact ⟨bit.trans (start type).1, value.trans (start type).2⟩

/-! ## What every message keeps to -/

/-- What `%s` stores: it fits the array, and holds neither white space nor a NUL. -/
structure Word (bytes : List UInt8) : Prop where
  fits : bytes.length < fieldLen
  plain : ∀ byte ∈ bytes, isSpace byte = false ∧ byte ≠ 0

theorem Word.nil : Word [] := ⟨by decide, fun _ member => absurd member List.not_mem_nil⟩

theorem StoredFrom.word {text old stored : List UInt8} (from_ : StoredFrom text old stored)
    (noNul : 0 ∉ text) (word : Word old) : Word stored := by
  rcases from_ with rfl | ⟨scanned, fits⟩
  · exact word
  · refine ⟨fits, fun byte member => ?_⟩
    unfold scanWord scanSet at scanned
    split at scanned
    · cases scanned
    · obtain rfl := Option.some.inj scanned
      have accepted := List.mem_takeWhile_imp member
      have occurs : byte ∈ text :=
        (List.dropWhile_suffix _).subset ((List.takeWhile_prefix _).subset member)
      refine ⟨by simpa using accepted, fun zero => noNul (zero ▸ occurs)⟩

/-- A message which `parse_rtsp` can have made. -/
structure RTSPMsg.Received (msg : RTSPMsg) : Prop where
  undated : msg.has fDate = false
  bare : msg.has fData = false
  numbers : ∀ header : NumberHeader, IsInt (header.value msg)
  contenttype : Word msg.contenttype
  transport : Word msg.transport
  range : Word msg.range

theorem isInt_zero : IsInt 0 := ⟨by omega, by omega⟩

theorem RTSPMsg.received_zero : RTSPMsg.zero.Received :=
  ⟨rfl, rfl, fun header => by cases header <;> exact isInt_zero, .nil, .nil, .nil⟩

theorem RTSPMsg.received_typed (type : RtspMsgType) : (typedMsg type).Received := by
  have same := fun field => @has_set_other RTSPMsg.zero (typedMsg type) fType field rfl
  exact ⟨same fDate rfl, same fData rfl, RTSPMsg.received_zero.numbers, .nil, .nil, .nil⟩

/-- What is read as a number is an `int`. -/
theorem scanInt_isInt {text : List UInt8} {value : Int} (read : scanInt text = some value) :
    IsInt value := by
  obtain ⟨digits, -, rfl⟩ := Option.map_eq_some_iff.mp read
  exact toInt32_isInt _

theorem rtspHeader_received {msg after : RTSPMsg} {temp : List UInt8} (noNul : 0 ∉ temp)
    (received : msg.Received) (ok : rtspHeader msg temp = .ok after) : after.Received := by
  have effect := rtspHeader_effect ok
  have apart : headerField temp &&& fDate = 0 ∧ headerField temp &&& fData = 0 := by
    unfold headerField
    split_ifs <;> exact ⟨rfl, rfl⟩
  have behind : ∀ n, 0 ∉ temp.drop n := fun n member => noNul ((List.drop_suffix _ _).subset member)
  exact
    { undated := (has_set_other effect.fields apart.1).trans received.undated
      bare := (has_set_other effect.fields apart.2).trans received.bare
      numbers := fun header => by
        rw [effect.numbers header]
        split
        · cases read : scanInt (temp.drop header.name.length) with
          | none => exact received.numbers header
          | some value => exact scanInt_isInt read
        · exact received.numbers header
      contenttype := effect.contenttype.word (behind 14) received.contenttype
      transport := effect.transport.word (behind 11) received.transport
      range := effect.range.word (behind 7) received.range }

theorem rtspHeaders_received {lines : List Line} {body : List UInt8} {msg after : RTSPMsg}
    (noNul : 0 ∉ framed lines body) (received : msg.Received)
    (ok : rtspHeaders lines body msg = .ok after) : after.Received := by
  induction lines generalizing msg with
  | nil =>
      cases ok
      exact received
  | cons line lines ih =>
      cases first : rtspHeader msg (framed (line :: lines) body) with
      | error reason => simp [rtspHeaders, first, bind, Except.bind] at ok
      | ok next =>
          simp only [rtspHeaders, first, bind, Except.bind] at ok
          have behind : 0 ∉ framed lines body := fun member => noNul (by
            rw [framed_cons]
            exact List.mem_append_right _ member)
          exact ih behind (rtspHeader_received noNul received first) ok

/-- Every message of a text without NUL keeps to it. -/
theorem parseRtsp_received {text : List UInt8} {result : Int} {msg : RTSPMsg} (noNul : 0 ∉ text)
    (parsed : parseRtsp text = .ok (result, msg)) : msg.Received := by
  rcases parseRtsp_cases parsed with rfl | ⟨lines, body, type, -, rfl, -, made⟩
  · exact RTSPMsg.received_zero
  · exact rtspHeaders_received noNul (RTSPMsg.received_typed type) made

end Http2Rtsp.Message
